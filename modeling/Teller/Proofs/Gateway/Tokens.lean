import Teller.Proofs.Except
import Teller.Proofs.Gateway.Transfers
import Teller.Proofs.Lifetimes
import Teller.Proofs.Token.RoundTrip

/-!
# Tokens in a handler

To verify a token a handler reads the clock once. To issue one it draws an identifier, reads the
clock and draws a nonce, in this order, whether or not the token can be issued then.
-/

namespace Teller

namespace Token

/-- What a token says and how long it can be verified, if it was issued for so many seconds. -/
structure Issued (maker : Maker) (id : Uuid) (username : String) (seconds : Nat) (now : Timestamp)
    (token : String) (p : Payload) : Prop where
  id : p.id = id
  username : p.username = username
  issuedAt : p.issuedAt = now.floor
  expiredAt : p.expiredAt.nanos = p.issuedAt.nanos + seconds * nanosPerSecond
  verify : maker.Accepts p → ∀ t, maker.verify token t =
    if p.expiredAt < t then .error .expired else .ok p

/-- What is created as of now is issued for a lifetime from the start of this second. -/
theorem issued_of_create {maker : Maker} {id : Uuid} {nonce : Sealed.Nonce} {username : String}
    {seconds : Nat} {now : Timestamp} {token : String} {p : Payload}
    (h : maker.create id nonce username (Config.lifetime seconds) now = .ok (token, p)) :
    Issued maker id username seconds now token p := by
  obtain ⟨expiredAt, added, rfl, rfl⟩ := Maker.create_cases h
  have expiry := Config.nanos_lifetime added
  have whole : expiredAt.floor = expiredAt := by
    rw [Timestamp.floor_eq_self_iff, expiry, Timestamp.nanos_floor]
    exact Int.dvd_add (Int.dvd_mul_left _ _) (Int.dvd_mul_left _ _)
  refine ⟨rfl, rfl, rfl, expiry, fun accepted t => ?_⟩
  rw [Maker.verify_write accepted, Payload.written, Timestamp.floor_floor, whole]

namespace Issued

variable {maker : Maker} {id : Uuid} {username : String} {seconds : Nat} {now : Timestamp}
  {token : String} {p : Payload}

/-- Since 1970 every maker accepts what it has issued. -/
theorem verify_since (h : Issued maker id username seconds now token p)
    (since : Timestamp.epoch ≤ now) (t : Timestamp) :
    maker.verify token t = if p.expiredAt < t then .error .expired else .ok p := by
  refine h.verify (maker.accepts_of_epoch_le ?_) t
  have start : 0 ≤ now.second := Timestamp.second_nonneg_iff.2 since
  have expiry := h.expiredAt
  rw [h.issuedAt, Timestamp.nanos_floor] at expiry
  change 0 ≤ p.expiredAt.nanos
  rw [expiry]
  simp only [nanosPerSecond]
  omega

/-- A token that was issued is accepted as long as it lasts. -/
theorem verified (h : Issued maker id username seconds now token p)
    (since : Timestamp.epoch ≤ now) {t : Timestamp} (inTime : t ≤ p.expiredAt) :
    maker.verify token t = .ok p := by
  have early : ¬p.expiredAt < t := Int.not_lt.2 inTime
  rw [h.verify_since since, if_neg early]

/-- A token that was issued is accepted as nothing but what it was issued for. -/
theorem eq_of_verify (h : Issued maker id username seconds now token p)
    (since : Timestamp.epoch ≤ now) {t : Timestamp} {q : Payload}
    (genuine : maker.verify token t = .ok q) : q = p := by
  rw [h.verify_since since] at genuine
  split at genuine
  · cases genuine
  · exact (Except.ok.inj genuine).symm

end Issued

end Token

namespace Gateway

open Interaction Handler

variable {log : List Exchange} {auth : Authority}

/-! ### Failures -/

/-- A handler fails with the status of an error. -/
def Handler.Refuses {α : Type} (x : Handler α) : Prop :=
  ∀ log failure, x.run.Goes log (some (.error failure)) → 400 ≤ failure.status

namespace Handler

variable {α β : Type}

/-- Parts that fail with errors only make a handler that does. -/
theorem Refuses.bind {x : Handler α} {f : α → Handler β} (hx : x.Refuses)
    (hf : ∀ a, (f a).Refuses) : (x >>= f).Refuses := by
  intro log failure h
  rcases goes_bind_cases h with ⟨-, ended⟩ | ⟨_, fails, same⟩ | ⟨a, front, back, -, -, rest⟩
  · cases ended
  · cases same
    exact hx log failure fails
  · exact hf a back failure rest

theorem refuses_pure (a : α) : (pure a : Handler α).Refuses := by
  intro log failure h
  obtain ⟨-, same⟩ := goes_pure_iff.1 h
  cases same

theorem refuses_ofExcept {result : Except Failure α}
    (h : ∀ failure, result = .error failure → 400 ≤ failure.status) :
    (ofExcept result).Refuses := by
  intro log failure fails
  obtain ⟨-, same⟩ := goes_ofExcept_iff.1 fails
  exact h failure (Option.some.inj same).symm

theorem refuses_throw {failure : Failure} (h : 400 ≤ failure.status) :
    (throw failure : Handler α).Refuses :=
  refuses_ofExcept fun other same => by cases same; exact h

theorem refuses_lift (x : Interaction α) : (liftM x : Handler α).Refuses := by
  intro log failure h
  obtain ⟨result, -, same⟩ := goes_bind_pure_iff.1 h
  cases result <;> cases same

theorem status_ofStore (e : Store.Error) : 400 ≤ (Failure.ofStore e).status := by
  unfold Failure.ofStore
  split
  · decide
  · split <;> decide

theorem refuses_store (x : Interaction (Except Store.Error α)) : (store x).Refuses := by
  refine (refuses_lift x).bind fun result => ?_
  cases result with
  | ok a => exact refuses_pure a
  | error e => exact refuses_throw (status_ofStore e)

theorem refuses_find (absent : String) (x : Interaction (Except Store.Error α)) :
    (find absent x).Refuses := by
  refine (refuses_lift x).bind fun result => ?_
  cases result with
  | ok a => exact refuses_pure a
  | error e =>
    dsimp only
    split
    · exact refuses_throw (by simp [Failure.notFound])
    · exact refuses_throw (status_ofStore e)

end Handler

theorem refuses_ofRequest {α : Type} (form : Form α) (r : Request) : (form.ofRequest r).Refuses :=
  refuses_ofExcept fun failure h => by simp [Form.status_of_read_eq_error h]

theorem status_ofToken (e : Token.Error) :
    400 ≤ (Failure.ofToken e).status ∧ (Failure.ofToken e).status ≠ 504 := by
  cases e <;> exact ⟨by simp [Failure.ofToken, Failure.unauthorized, Failure.unexplained,
    Failure.internal], by simp [Failure.ofToken, Failure.unauthorized, Failure.unexplained,
    Failure.internal]⟩

/-! ### Verifying and issuing -/

/-- Verifying a token asks for nothing but the time. -/
theorem goes_verify_iff {token : String} {ending : Option (Except Failure Token.Payload)} :
    (auth.verify token).run.Goes log ending ↔ ∃ now : Timestamp,
      log = [⟨.time .tokens, now⟩] ∧
        ending = some ((auth.maker.verify token now).mapError .ofToken) := by
  have asks : (auth.verify token).run =
      ask (.time .tokens) fun now => pure ((auth.maker.verify token now).mapError .ofToken) := rfl
  rw [asks, goes_ask_iff]
  constructor
  · rintro ⟨now, rest, rfl, h⟩
    obtain ⟨rfl, rfl⟩ := goes_pure_iff.1 h
    exact ⟨now, rfl, rfl⟩
  · rintro ⟨now, rfl, rfl⟩
    exact ⟨now, [], rfl, goes_pure_iff.2 ⟨rfl, rfl⟩⟩

/-- Issuing a token draws an identifier and a nonce around a look at the clock. -/
theorem goes_issue_iff {username : String} {lifetime : Duration}
    {ending : Option (Except Failure (String × Token.Payload))} :
    (auth.issue username lifetime).run.Goes log ending ↔
      ∃ (id : Uuid) (now : Timestamp) (nonce : Token.Sealed.Nonce),
        log = [⟨.identifier, id⟩, ⟨.time .tokens, now⟩, ⟨.nonce, nonce⟩] ∧
          ending =
            some ((auth.maker.create id nonce username lifetime now).mapError .ofToken) := by
  have asks : (auth.issue username lifetime).run = ask .identifier fun id =>
      ask (.time .tokens) fun now => ask .nonce fun nonce =>
        pure ((auth.maker.create id nonce username lifetime now).mapError .ofToken) := rfl
  rw [asks]
  constructor
  · intro h
    obtain ⟨id, _, rfl, dating⟩ := goes_ask_iff.1 h
    obtain ⟨now, _, rfl, drawing⟩ := goes_ask_iff.1 dating
    obtain ⟨nonce, _, rfl, ended⟩ := goes_ask_iff.1 drawing
    obtain ⟨rfl, rfl⟩ := goes_pure_iff.1 ended
    exact ⟨id, now, nonce, rfl, rfl⟩
  · rintro ⟨id, now, nonce, rfl, rfl⟩
    refine goes_ask_iff.2 ⟨id, _, rfl, goes_ask_iff.2 ⟨now, _, rfl, ?_⟩⟩
    exact goes_ask_iff.2 ⟨nonce, _, rfl, goes_pure_iff.2 ⟨rfl, rfl⟩⟩

/-- A token passes if it is good at the time that was told. -/
theorem checks_verify (auth : Authority) (token : String) :
    (auth.verify token).Checks fun log payload => ∃ now : Timestamp,
      log = [⟨.time .tokens, now⟩] ∧ auth.maker.verify token now = .ok payload := by
  intro log ending h
  obtain ⟨now, rfl, rfl⟩ := goes_verify_iff.1 h
  cases verified : auth.maker.verify token now with
  | error e =>
    exact .inl ⟨by simp, fun result h => by cases h; exact ⟨_, rfl, (status_ofToken e).2⟩⟩
  | ok payload => exact .inr ⟨payload, rfl, by simp, now, rfl, verified⟩

/-- A token that is issued, with what is drawn for it and told by the clock. -/
structure Issue where
  id : Uuid
  now : Timestamp
  nonce : Token.Sealed.Nonce
  token : String
  payload : Token.Payload

namespace Issue

/-- What is asked to issue a token, and answered. -/
def exchanges (i : Issue) : List Exchange :=
  [⟨.identifier, i.id⟩, ⟨.time .tokens, i.now⟩, ⟨.nonce, i.nonce⟩]

/-- The token is for a user and for a time. -/
def IsFor (i : Issue) (auth : Authority) (username : String) (lifetime : Duration) : Prop :=
  auth.maker.create i.id i.nonce username lifetime i.now = .ok (i.token, i.payload)

theorem IsFor.issued {i : Issue} {username : String} {seconds : Nat}
    (h : i.IsFor auth username (Config.lifetime seconds)) :
    Token.Issued auth.maker i.id username seconds i.now i.token i.payload :=
  Token.issued_of_create h

theorem IsFor.goes {i : Issue} {username : String} {lifetime : Duration}
    (h : i.IsFor auth username lifetime) :
    (auth.issue username lifetime).run.Goes i.exchanges (some (.ok (i.token, i.payload))) := by
  unfold IsFor at h
  refine goes_issue_iff.2 ⟨i.id, i.now, i.nonce, rfl, ?_⟩
  rw [h]
  rfl

end Issue

/-- What is issued is one token with its payload, made of what was drawn. -/
theorem checks_issue (auth : Authority) (username : String) (lifetime : Duration) :
    (auth.issue username lifetime).Checks fun log issued => ∃ i : Issue,
      log = i.exchanges ∧ issued = (i.token, i.payload) ∧ i.IsFor auth username lifetime := by
  intro log ending h
  obtain ⟨id, now, nonce, rfl, rfl⟩ := goes_issue_iff.1 h
  have looked : ∀ request ∈ requests
      [⟨.identifier, id⟩, ⟨.time .tokens, now⟩, ⟨.nonce, nonce⟩], request.isLookup :=
    List.forall_mem_nil _
  cases created : auth.maker.create id nonce username lifetime now with
  | error e => exact .inl ⟨looked, fun result h => by cases h; exact ⟨_, rfl, (status_ofToken e).2⟩⟩
  | ok issued =>
    exact .inr ⟨issued, rfl, looked, ⟨id, now, nonce, issued.1, issued.2⟩, rfl, rfl, created⟩

theorem refuses_verify (auth : Authority) (token : String) : (auth.verify token).Refuses := by
  intro log failure h
  obtain ⟨now, -, same⟩ := goes_verify_iff.1 h
  obtain ⟨e, -, rfl⟩ := mapError_eq_error_iff.1 (Option.some.inj same).symm
  exact (status_ofToken e).1

theorem refuses_issue (auth : Authority) (username : String) (lifetime : Duration) :
    (auth.issue username lifetime).Refuses := by
  intro log failure h
  obtain ⟨id, now, nonce, -, same⟩ := goes_issue_iff.1 h
  obtain ⟨e, -, rfl⟩ := mapError_eq_error_iff.1 (Option.some.inj same).symm
  exact (status_ofToken e).1

end Gateway

end Teller
