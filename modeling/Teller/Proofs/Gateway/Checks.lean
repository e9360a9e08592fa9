import Teller.Gateway.Handler
import Teller.Proofs.Ledger.Transaction

/-!
# Checks before a handler acts

A handler goes on only from the successes of what it did before. A check is a part of a handler that
only looks something up: a request that does not pass it is turned away, with nothing written.
-/

namespace Teller

/-- Whether a request only looks something up. -/
def Store.Request.isLookup : Store.Request → Bool
  | .query (.select ..) _ | .query .ping _ => true
  | .query (.insert ..) _ | .query (.update ..) _ | .query (.delete ..) _ => false
  | .start | .commit | .rollback => false

namespace Gateway

namespace Failure

theorem status_ofStore_ne (e : Store.Error) : (ofStore e).status ≠ 504 := by
  unfold ofStore
  split
  · decide
  · split <;> decide

end Failure

namespace Handler

open Interaction

variable {α β : Type} {log : List Exchange}

/-- A handler goes on from the value of another one, or ends with its failure or its silence. -/
theorem goes_bind_cases {x : Handler α} {f : α → Handler β} {ending : Option (Except Failure β)}
    (h : (x >>= f).run.Goes log ending) :
    (x.run.Goes log none ∧ ending = none) ∨
      (∃ failure, x.run.Goes log (some (.error failure)) ∧ ending = some (.error failure)) ∨
      ∃ a front back, log = front ++ back ∧ x.run.Goes front (some (.ok a)) ∧
        (f a).run.Goes back ending := by
  rcases Goes.bind_cases h with stalled | ⟨result, front, back, rfl, hx, rest⟩
  · exact .inl stalled
  · cases result with
    | error failure =>
      obtain ⟨rfl, rfl⟩ := goes_pure_iff.1 rest
      rw [List.append_nil]
      exact .inr (.inl ⟨failure, hx, rfl⟩)
    | ok a => exact .inr (.inr ⟨a, front, back, rfl, hx, rest⟩)

theorem goes_bind (front : List Exchange) {back : List Exchange} {x : Handler α}
    {f : α → Handler β} {a : α} {ending : Option (Except Failure β)}
    (hx : x.run.Goes front (some (.ok a))) (hf : (f a).run.Goes back ending) :
    (x >>= f).run.Goes (front ++ back) ending :=
  Goes.bind hx hf

theorem goes_bind_error {x : Handler α} {f : α → Handler β} {failure : Failure}
    (hx : x.run.Goes log (some (.error failure))) :
    (x >>= f).run.Goes log (some (.error failure)) := by
  rw [← List.append_nil log]
  exact Goes.bind hx (.done _)

/-- A handler that goes on with a function of the value. -/
theorem goes_map_iff {x : Handler α} {f : α → β} {ending : Option (Except Failure β)} :
    (x >>= fun a => pure (f a)).run.Goes log ending ↔
      ∃ result, x.run.Goes log result ∧ ending = result.map (Except.map f) := by
  have mapped : (x >>= fun a => pure (f a)).run = x.run >>= fun result => pure (result.map f) := by
    refine congrArg (x.run >>= ·) (funext fun result => ?_)
    cases result <;> rfl
  rw [mapped, goes_bind_pure_iff]

theorem goes_ofExcept_iff {result : Except Failure α} {ending : Option (Except Failure α)} :
    (ofExcept result).run.Goes log ending ↔ log = [] ∧ ending = some result := goes_pure_iff

theorem goes_of_ok_bind {result : Except Failure α} {a : α} {f : α → Handler β}
    {ending : Option (Except Failure β)} (ok : result = .ok a)
    (h : (ofExcept result >>= f).run.Goes log ending) : (f a).run.Goes log ending := by
  subst ok
  exact h

/-- A handler that begins with something known goes on from it, or ends with its failure. -/
theorem goes_ofExcept_bind_iff {result : Except Failure α} {f : α → Handler β}
    {ending : Option (Except Failure β)} : (ofExcept result >>= f).run.Goes log ending ↔
      (∃ a, result = .ok a ∧ (f a).run.Goes log ending) ∨
        ∃ failure, result = .error failure ∧ log = [] ∧ ending = some (.error failure) := by
  cases result with
  | ok a =>
    have goesOn : (ofExcept (.ok a) >>= f).run = (f a).run := rfl
    simp [goesOn]
  | error failure =>
    have ends : (ofExcept (.error failure) >>= f).run = pure (Except.error failure) := rfl
    simp [ends, goes_pure_iff]

/-- A handler that ends with a check of the value. -/
theorem goes_bind_ofExcept_iff {x : Handler α} {f : α → Except Failure β}
    {ending : Option (Except Failure β)} : (x >>= fun a => ofExcept (f a)).run.Goes log ending ↔
      ∃ result, x.run.Goes log result ∧ ending = result.map (· >>= f) := by
  have checked : (x >>= fun a => ofExcept (f a)).run =
      x.run >>= fun result => pure (result >>= f) := by
    refine congrArg (x.run >>= ·) (funext fun result => ?_)
    cases result <;> rfl
  rw [checked, goes_bind_pure_iff]

/-- A handler that begins with an interaction. -/
theorem run_lift_bind (x : Interaction α) (f : α → Handler β) :
    ((liftM x : Handler α) >>= f).run = x >>= fun a => (f a).run :=
  Interaction.bind_assoc x _ _

theorem goes_store_iff {α : Type} {x : Interaction (Except Store.Error α)}
    {ending : Option (Except Failure α)} : (store x).run.Goes log ending ↔
      ∃ result, x.Goes log result ∧ ending = result.map (Except.mapError .ofStore) := by
  have stored : (store x).run = x >>= fun result => pure (result.mapError .ofStore) := by
    rw [store, run_lift_bind]
    refine congrArg (x >>= ·) (funext fun result => ?_)
    cases result <;> rfl
  rw [stored, goes_bind_pure_iff]

/-- A handler that ends with a function of the row that a statement is answered with. -/
theorem goes_store_first_iff {s : Store.Statement} {arguments : List Store.Value}
    {read : Store.Cells → Except Store.Cause α} {f : α → β}
    {ending : Option (Except Failure β)} :
    (store (Store.fetchFirst s arguments read) >>= fun a => (pure (f a) : Handler β)).run.Goes log
      ending ↔ ∃ reply, log = [.sent (.query s arguments) reply] ∧
        ending = reply.map fun reply => ((s.first read reply).mapError .ofStore).map f := by
  rw [goes_map_iff]
  constructor
  · rintro ⟨result, h, rfl⟩
    obtain ⟨written, asked, rfl⟩ := goes_store_iff.1 h
    obtain ⟨reply, rfl, rfl⟩ := goes_send_iff.1 asked
    refine ⟨reply, rfl, ?_⟩
    simp only [Option.map_map]
    rfl
  · rintro ⟨reply, rfl, rfl⟩
    refine ⟨_, goes_store_iff.2 ⟨_, goes_send_iff.2 ⟨reply, rfl, rfl⟩, rfl⟩, ?_⟩
    simp only [Option.map_map]
    rfl

/-- Nothing was written, and what is answered, if anything, is a failure, and not the one of a lack
of time. -/
structure TurnedAway (log : List Exchange) (ending : Option (Except Failure α)) : Prop where
  looked : ∀ request ∈ requests log, request.isLookup
  failed : ∀ result, ending = some result →
    ∃ failure, result = .error failure ∧ failure.status ≠ 504

/-- Whoever is not turned away has passed, with a log and a value of which `post` holds. -/
def Checks (post : List Exchange → α → Prop) (x : Handler α) : Prop :=
  ∀ log ending, x.run.Goes log ending → TurnedAway log ending ∨
    ∃ a, ending = some (.ok a) ∧ (∀ request ∈ requests log, request.isLookup) ∧ post log a

theorem TurnedAway.after {front : List Exchange} {ending : Option (Except Failure α)}
    (looked : ∀ request ∈ requests front, request.isLookup) (h : TurnedAway log ending) :
    TurnedAway (front ++ log) ending where
  looked := by
    intro request hrequest
    rw [requests_append, List.mem_append] at hrequest
    rcases hrequest with hrequest | hrequest
    · exact looked request hrequest
    · exact h.looked request hrequest
  failed := h.failed

theorem turnedAway_throw {failure : Failure} {ending : Option (Except Failure α)}
    (other : failure.status ≠ 504)
    (h : (throw failure : Handler α).run.Goes log ending) : TurnedAway log ending := by
  obtain ⟨rfl, rfl⟩ := goes_pure_iff.1 h
  refine ⟨by simp, fun result hresult => ?_⟩
  cases hresult
  exact ⟨failure, rfl, other⟩

/-- A handler that begins with a check goes on where the check is passed. -/
theorem Checks.bind_cases {x : Handler α} {f : α → Handler β} {post : List Exchange → α → Prop}
    {ending : Option (Except Failure β)} (hx : x.Checks post) (h : (x >>= f).run.Goes log ending) :
    TurnedAway log ending ∨
      ∃ a front back, log = front ++ back ∧ (∀ request ∈ requests front, request.isLookup) ∧
        post front a ∧ (f a).run.Goes back ending := by
  rcases goes_bind_cases h with
    ⟨stalls, rfl⟩ | ⟨failure, fails, rfl⟩ | ⟨a, front, back, rfl, passes, rest⟩
  · rcases hx _ _ stalls with away | ⟨a, ended, -⟩
    · exact .inl ⟨away.looked, nofun⟩
    · cases ended
  · rcases hx _ _ fails with away | ⟨a, ended, -⟩
    · refine .inl ⟨away.looked, fun result hresult => ?_⟩
      cases hresult
      obtain ⟨other, same, status⟩ := away.failed _ rfl
      cases same
      exact ⟨failure, rfl, status⟩
    · cases ended
  · rcases hx _ _ passes with away | ⟨b, ended, looked, hpost⟩
    · obtain ⟨failure, same, -⟩ := away.failed _ rfl
      cases same
    · cases ended
      exact .inr ⟨a, front, back, rfl, looked, hpost, rest⟩

theorem checks_ofExcept {result : Except Failure α}
    (other : ∀ failure, result = .error failure → failure.status ≠ 504) :
    (ofExcept result).Checks fun log a => log = [] ∧ result = .ok a := by
  intro log ending h
  obtain ⟨rfl, rfl⟩ := goes_ofExcept_iff.1 h
  cases result with
  | error failure =>
    refine .inl ⟨by simp, fun result hresult => ?_⟩
    cases hresult
    exact ⟨failure, rfl, other failure rfl⟩
  | ok a => exact .inr ⟨a, rfl, by simp, rfl, rfl⟩

theorem goes_find_iff {absent : String} {x : Interaction (Except Store.Error α)}
    {ending : Option (Except Failure α)} : (find absent x).run.Goes log ending ↔
      ∃ result, x.Goes log result ∧ ending = result.map (Except.mapError fun e =>
        if e.isNotFound then .notFound absent else .ofStore e) := by
  have found : (find absent x).run = x >>= fun result => pure (result.mapError fun e =>
      if e.isNotFound then .notFound absent else .ofStore e) := by
    rw [find, run_lift_bind]
    refine congrArg (x >>= ·) (funext fun result => ?_)
    cases result with
    | ok a => rfl
    | error e =>
      have fails {failure told : Failure} (same : failure = told) :
          (throw failure : Handler α).run = pure (Except.error told) := by
        rw [same]
        rfl
      dsimp only
      split
      · next missing => exact fails (if_pos missing).symm
      · next other => exact fails (if_neg other).symm
  rw [found, goes_bind_pure_iff]

theorem checks_find {absent : String} {x : Interaction (Except Store.Error α)}
    {sent : List Store.Request} {post : List Exchange → α → Prop} (hx : x.Sends sent post)
    (looks : ∀ request ∈ sent, request.isLookup) : (find absent x).Checks post := by
  intro log ending h
  obtain ⟨result, asked, rfl⟩ := goes_find_iff.1 h
  obtain ⟨follows, found⟩ := hx _ _ asked
  have looked : ∀ request ∈ requests log, request.isLookup := fun request h =>
    looks request (follows.requests_prefix.subset h)
  rcases result with _ | e | a
  · exact .inl ⟨looked, nofun⟩
  · refine .inl ⟨looked, fun result failed => ⟨_, (Option.some.inj failed).symm, ?_⟩⟩
    dsimp only
    split
    · simp [Failure.notFound]
    · exact Failure.status_ofStore_ne e
  · exact .inr ⟨a, rfl, looked, found a rfl⟩

theorem goes_find (absent : String) {x : Interaction (Except Store.Error α)} {a : α}
    (h : x.Goes log (some (.ok a))) : (find absent x).run.Goes log (some (.ok a)) :=
  goes_find_iff.2 ⟨_, h, rfl⟩

theorem goes_time_iff {clock : Clock} {ending : Option (Except Failure Timestamp)} :
    (liftM (time clock) : Handler Timestamp).run.Goes log ending ↔
      ∃ now, ending = some (.ok now) ∧ log = [⟨.time clock, now⟩] := by
  constructor
  · intro h
    obtain ⟨now, _, rfl, ended⟩ := goes_ask_iff.1 h
    obtain ⟨rfl, rfl⟩ := goes_pure_iff.1 ended
    exact ⟨now, rfl, rfl⟩
  · rintro ⟨now, rfl, rfl⟩
    exact goes_ask_iff.2 ⟨now, [], rfl, .done _⟩

theorem checks_time (clock : Clock) : (liftM (time clock) : Handler Timestamp).Checks
    fun log now => log = [⟨.time clock, now⟩] := by
  intro log ending h
  obtain ⟨now, rfl, rfl⟩ := goes_time_iff.1 h
  exact .inr ⟨now, rfl, List.forall_mem_nil _, rfl⟩

/-- A handler that goes on from a part that comes to a value, whichever way it goes. -/
theorem goes_bind_of_ok {x : Handler α} {f : α → Handler β} {post : List Exchange → α → Prop}
    {ending : Option (Except Failure β)} (h : (x >>= f).run.Goes log ending)
    (passes : ∀ front result, front <+: log → x.run.Goes front result →
      ∃ a, result = some (.ok a) ∧ post front a) :
    ∃ a front back, log = front ++ back ∧ post front a ∧ (f a).run.Goes back ending := by
  rcases goes_bind_cases h with
    ⟨stalls, -⟩ | ⟨failure, fails, -⟩ | ⟨a, front, back, rfl, came, rest⟩
  · obtain ⟨a, ended, -⟩ := passes log none List.prefix_rfl stalls
    cases ended
  · obtain ⟨a, ended, -⟩ := passes log _ List.prefix_rfl fails
    cases ended
  · obtain ⟨b, ended, told⟩ := passes front _ (List.prefix_append _ _) came
    cases ended
    exact ⟨a, front, back, rfl, told, rest⟩

end Handler

end Gateway

end Teller
