import Teller.Proofs.Gateway.Authorization
import Teller.Proofs.Token.Genuine

/-!
# The gate of the guarded routes

On a guarded route nothing of a request is looked at before its authorization value. Who presents a
good token goes through as its subject. Everybody else is told what is missing, and the database
does not hear of them, whatever else they ask for.
-/

namespace Teller.Gateway

open Text Interaction Handler

/-! ### Routes -/

/-- Where an endpoint is asked for. An identifier is any text without a slash, be it a number or
not. -/
inductive GuardedEndpoint.IsAt : GuardedEndpoint → String → String → Prop where
  | openAccount : IsAt .openAccount "POST" "/accounts"
  | listAccounts : IsAt .listAccounts "GET" "/accounts"
  | readAccount {id : String} (ne : id ≠ "") (segment : '/' ∉ id.toList) :
      IsAt (.readAccount id) "GET" ("/accounts/" ++ id)
  | closeAccount {id : String} (ne : id ≠ "") (segment : '/' ∉ id.toList) :
      IsAt (.closeAccount id) "DELETE" ("/accounts/" ++ id)
  | transfer : IsAt .transfer "POST" "/transfers"

theorem endpoints_account {id : String} (ne : id ≠ "") (segment : '/' ∉ id.toList) :
    endpoints ("/accounts/" ++ id) =
      [("GET", .guarded (.readAccount id)), ("DELETE", .guarded (.closeAccount id))] := by
  have joined : ("/accounts/" ++ id).toList =
      ['/'].intercalate [[], "accounts".toList, id.toList] := by
    simp [List.intercalate, List.intersperse]
  -- An identifier without a slash is a segment of its own.
  have segments : ("/accounts/" ++ id).toList.splitOn '/' =
      [[], "accounts".toList, id.toList] := by
    rw [joined]
    refine List.splitOn_intercalate '/' ?_ (List.cons_ne_nil _ _)
    simpa using segment
  unfold endpoints
  rw [segments]
  simp only [String.ofList_toList]

theorem GuardedEndpoint.IsAt.offered {e : GuardedEndpoint} {method path : String}
    (h : e.IsAt method path) :
    (endpoints path).lookup method = some (.guarded e) ∧ method ≠ "HEAD" := by
  cases h with
  | openAccount | listAccounts | transfer => exact ⟨rfl, by decide⟩
  | readAccount ne segment | closeAccount ne segment =>
    rw [endpoints_account ne segment]
    exact ⟨rfl, by decide⟩

/-! ### Authorization values -/

/-- A value of printable ASCII. A tab counts as well, since white space may separate fields. -/
def IsPrintable (value : String) : Prop :=
  ∀ c ∈ value.toList, (0x20 ≤ c.toNat ∧ c.toNat ≤ 0x7e) ∨ c = '\t'

theorem isPlain_iff {value : String} : isPlain value ↔ IsPrintable value := by
  simp [isPlain, IsPrintable, Nat.lt_succ_iff]

/-- The first authorization value among headers can be read. -/
def Headers.Show (headers : Headers) (value : String) : Prop :=
  headers.first? "authorization" = some value ∧ IsPrintable value

theorem Headers.text?_eq_some_iff {headers : Headers} {value : String} :
    headers.text? "authorization" = some value ↔ headers.Show value := by
  rw [Headers.text?, Option.filter_eq_some_iff, isPlain_iff, Headers.Show]

/-- The first authorization value has the token in its second field, after the word bearer in any
case. -/
def Headers.Present (headers : Headers) (token : String) : Prop :=
  ∃ value name, headers.Show value ∧ TwoFields value.toList name token.toList ∧
    name.map Char.toLower = "bearer".toList

theorem Bearer.parse_of_bearer {value token : String} {name : List Char}
    (fields : TwoFields value.toList name token.toList)
    (bearer : name.map Char.toLower = "bearer".toList) : Bearer.parse value = .ok token := by
  rw [Bearer.parse_of_fields fields, if_pos (show _ = Bearer.scheme from bearer),
    String.ofList_toList]

/-! ### The gate -/

/-- Among the headers is a token with a payload that has not expired. -/
def Admits (maker : Token.Maker) (now : Timestamp) (headers : Headers) (p : Token.Payload) :
    Prop :=
  ∃ token, headers.Present token ∧ maker.verify token now = .ok p

/-- What is said to those who present no such token. -/
inductive Refused (maker : Token.Maker) (now : Timestamp) (headers : Headers) : Failure → Prop where
  | missing (h : ∀ value, ¬headers.Show value) :
      Refused maker now headers ⟨401, 2001, "authorization header is not provided"⟩
  | shapeless {value : String} (shown : headers.Show value)
      (h : ∀ first second, ¬TwoFields value.toList first second) :
      Refused maker now headers ⟨401, 2002, "invalid authorization header format"⟩
  | foreign {value : String} {first second : List Char} (shown : headers.Show value)
      (fields : TwoFields value.toList first second)
      (other : first.map Char.toLower ≠ "bearer".toList) :
      Refused maker now headers
        ⟨401, 2002, "unsupported authorization type " ++ String.ofList first⟩
  | invalid {token : String} (presented : headers.Present token)
      (h : maker.verify token now = .error .invalid) :
      Refused maker now headers ⟨401, 2002, "token is invalid"⟩
  | expired {token : String} (presented : headers.Present token)
      (h : maker.verify token now = .error .expired) :
      Refused maker now headers ⟨401, 2003, "token has expired"⟩

section

variable {maker : Token.Maker} {now : Timestamp} {headers : Headers} {p : Token.Payload}
  {failure : Failure}

theorem authenticate_of_present {token : String} (presented : headers.Present token) :
    Bearer.authenticate maker now headers =
      (maker.verify token now).mapError Failure.ofToken := by
  obtain ⟨value, name, shown, fields, bearer⟩ := presented
  rw [Bearer.authenticate_of_some (Headers.text?_eq_some_iff.2 shown),
    Bearer.parse_of_bearer fields bearer]
  rfl

/-- Everybody is let in or told why not. -/
theorem admits_or_refused (maker : Token.Maker) (now : Timestamp) (headers : Headers) :
    (∃ p, Admits maker now headers p) ∨ ∃ failure, Refused maker now headers failure := by
  by_cases shown : ∃ value, headers.Show value
  · obtain ⟨value, shown⟩ := shown
    by_cases fields : ∃ first second, TwoFields value.toList first second
    · obtain ⟨first, second, fields⟩ := fields
      by_cases bearer : first.map Char.toLower = "bearer".toList
      · have presented : headers.Present (String.ofList second) :=
          ⟨value, first, shown, String.toList_ofList.symm ▸ fields, bearer⟩
        rcases maker.verify_cases (String.ofList second) now with ⟨p, verified⟩ | invalid | expired
        · exact .inl ⟨p, _, presented, verified⟩
        · exact .inr ⟨_, .invalid presented invalid⟩
        · exact .inr ⟨_, .expired presented expired⟩
      · exact .inr ⟨_, .foreign shown fields bearer⟩
    · exact .inr ⟨_, .shapeless shown fun first second both => fields ⟨first, second, both⟩⟩
  · exact .inr ⟨_, .missing (not_exists.1 shown)⟩

theorem Admits.authenticate (h : Admits maker now headers p) :
    Bearer.authenticate maker now headers = .ok p := by
  obtain ⟨token, presented, verified⟩ := h
  rw [authenticate_of_present presented, verified]
  rfl

theorem Refused.authenticate (h : Refused maker now headers failure) :
    Bearer.authenticate maker now headers = .error failure := by
  cases h with
  | missing h =>
    have none : headers.text? "authorization" = none :=
      Option.eq_none_iff_forall_ne_some.2 fun _ found => h _ (Headers.text?_eq_some_iff.1 found)
    rw [Bearer.authenticate, none]
    rfl
  | shapeless shown h =>
    rw [Bearer.authenticate_of_some (Headers.text?_eq_some_iff.2 shown),
      Bearer.parse_of_no_fields h]
    rfl
  | foreign shown fields other =>
    rw [Bearer.authenticate_of_some (Headers.text?_eq_some_iff.2 shown),
      Bearer.parse_of_fields fields, if_neg (show _ ≠ Bearer.scheme from other)]
    rfl
  | invalid presented h | expired presented h =>
    rw [authenticate_of_present presented, h]
    rfl

theorem Admits.unique {q : Token.Payload} (h : Admits maker now headers p)
    (h' : Admits maker now headers q) : p = q :=
  Except.ok.inj (h.authenticate.symm.trans h'.authenticate)

theorem Refused.unique {failure' : Failure} (h : Refused maker now headers failure)
    (h' : Refused maker now headers failure') : failure = failure' :=
  Except.error.inj (h.authenticate.symm.trans h'.authenticate)

theorem Admits.not_refused (h : Admits maker now headers p) :
    ¬Refused maker now headers failure := by
  intro refused
  have both := h.authenticate.symm.trans refused.authenticate
  cases both

theorem authenticate_eq_ok_iff_admits :
    Bearer.authenticate maker now headers = .ok p ↔ Admits maker now headers p := by
  refine ⟨fun h => ?_, Admits.authenticate⟩
  rcases admits_or_refused maker now headers with ⟨q, admitted⟩ | ⟨failure, refused⟩
  · rw [admitted.authenticate] at h
    cases h
    exact admitted
  · rw [refused.authenticate] at h
    cases h

theorem authenticate_eq_error_iff_refused :
    Bearer.authenticate maker now headers = .error failure ↔ Refused maker now headers failure := by
  refine ⟨fun h => ?_, Refused.authenticate⟩
  rcases admits_or_refused maker now headers with ⟨q, admitted⟩ | ⟨failure, refused⟩
  · rw [admitted.authenticate] at h
    cases h
  · rw [refused.authenticate] at h
    cases h
    exact refused

end

/-- Behind the gate a handler goes on for those who are admitted. The others are answered after a
look at the clock. -/
theorem goes_guarded_iff {auth : Authority} {headers : Headers}
    {f : Token.Payload → Handler Json.Value} {log : List Exchange} {response : Option Response} :
    (respond (auth.authenticate headers >>= f)).Goes log response ↔
      ∃ (now : Timestamp) (rest : List Exchange), log = ⟨.time .tokens, now⟩ :: rest ∧
        ((∃ p, Admits auth.maker now headers p ∧ (respond (f p)).Goes rest response) ∨
          ∃ failure, Refused auth.maker now headers failure ∧ rest = [] ∧
            response = some (.ofFailure failure)) := by
  have asks : respond (auth.authenticate headers >>= f) = ask (.time .tokens) fun now =>
      respond (Handler.ofExcept (Bearer.authenticate auth.maker now headers) >>= f) := rfl
  rw [asks, goes_ask_iff]
  refine exists_congr fun now => exists_congr fun rest => and_congr_right fun _ => ?_
  rw [goes_respond_ofExcept_iff]
  refine or_congr (exists_congr fun p => ?_) (exists_congr fun failure => ?_)
  · exact and_congr_left fun _ => authenticate_eq_ok_iff_admits
  · exact and_congr_left fun _ => authenticate_eq_error_iff_refused

/-! ### Issued tokens at the gate -/

/-- Behind a word and a gap an issued token is the second field. -/
theorem twoFields_of_issued {maker : Token.Maker} {nonce : Token.Sealed.Nonce} {p : Token.Payload}
    {value : String} {name gap : List Char}
    (same : value.toList = name ++ (gap ++ (maker.write nonce p).toList))
    (bearer : name.map Char.toLower = "bearer".toList) (apart : gap ≠ [])
    (blank : ∀ c ∈ gap, isBlank c) :
    TwoFields value.toList name (maker.write nonce p).toList := by
  have named : name ≠ [] := by
    rintro rfl
    cases bearer
  rw [same]
  exact twoFields_append named (Bearer.unbroken_of_scheme bearer) apart blank Token.Maker.write_ne
    (Bearer.unbroken_of_token Token.Maker.write_subset)

/-! ### The whole gate -/

/-- On a guarded route the time is asked first. Then a request is answered by the handler, for the
one payload of its token, or with the one refusal, and in that case nothing else is asked. Whatever
a maker has issued is taken unchanged out of a value, behind the word bearer in any case and any
white space. While it is good it stands for its subject, and behind spaces and tabs it is let in. -/
theorem bearer_gate (auth : Authority) (r : Request) (e : GuardedEndpoint)
    (route : e.IsAt r.method r.path) :
    (∀ log response, (handle auth r).Goes log response ↔
      ∃ (now : Timestamp) (rest : List Exchange), log = ⟨.time .tokens, now⟩ :: rest ∧
        ((∃ p, Admits auth.maker now r.headers p ∧ (respond (actFor p r e)).Goes rest response) ∨
          ∃ failure, Refused auth.maker now r.headers failure ∧ rest = [] ∧
            response = some (.ofFailure failure))) ∧
    (∀ now,
      (∃! p, Admits auth.maker now r.headers p) ∧
          (¬∃ failure, Refused auth.maker now r.headers failure) ∨
        (¬∃ p, Admits auth.maker now r.headers p) ∧
          ∃! failure, Refused auth.maker now r.headers failure) ∧
    ∀ {id nonce username lifetime issued token p},
      auth.maker.create id nonce username lifetime issued = .ok (token, p) →
      ∀ (value : String) (name gap : List Char),
        value.toList = name ++ (gap ++ token.toList) → name.map Char.toLower = "bearer".toList →
        gap ≠ [] → (∀ c ∈ gap, isBlank c) →
        Bearer.parse value = .ok token ∧
          ∀ now q, auth.maker.verify token now = .ok q → q.username = username ∧
            ∀ headers : Headers, headers.first? "authorization" = some value →
              gap ⊆ [' ', '\t'] → Admits auth.maker now headers q := by
  refine ⟨fun log response => ?_, fun now => ?_, ?_⟩
  · obtain ⟨offered, whole⟩ := route.offered
    rw [handle_of_endpoint offered whole]
    exact goes_guarded_iff
  · rcases admits_or_refused auth.maker now r.headers with ⟨p, admitted⟩ | ⟨failure, refused⟩
    · exact .inl ⟨⟨p, admitted, fun _ other => other.unique admitted⟩,
        fun ⟨_, refused⟩ => admitted.not_refused refused⟩
    · exact .inr ⟨fun ⟨_, admitted⟩ => admitted.not_refused refused,
        ⟨failure, refused, fun _ other => other.unique refused⟩⟩
  · intro id nonce username lifetime issued token p created value name gap same bearer apart blank
    obtain ⟨expiredAt, -, rfl, rfl⟩ := Token.Maker.create_cases created
    have fields := twoFields_of_issued same bearer apart blank
    refine ⟨Bearer.parse_of_bearer fields bearer, fun now q verified => ⟨?_, ?_⟩⟩
    · rw [Token.Maker.eq_written_of_verify verified]
      rfl
    · intro headers first spaces
      have plain := Bearer.isPlain_of_append same bearer spaces Token.Maker.write_subset
      exact ⟨_, ⟨value, name, ⟨first, isPlain_iff.1 plain⟩, fields, bearer⟩, verified⟩

/-- Ada's payment comes through the gate. -/
theorem payment_admitted :
    GuardedEndpoint.transfer.IsAt payment.method payment.path ∧
      vault.maker.create ⟨0⟩ (.ofNat 0) "ada" minute .epoch =
        .ok (String.ofList adasToken, adasPayload) ∧
      Bearer.parse (Bearer.present adasToken) = .ok (String.ofList adasToken) ∧
      Admits vault.maker .epoch payment.headers adasPayload := by
  have route : GuardedEndpoint.transfer.IsAt payment.method payment.path := .transfer
  have created : vault.maker.create ⟨0⟩ (.ofNat 0) "ada" minute .epoch =
      .ok (String.ofList adasToken, adasPayload) := rfl
  have same (token : List Char) : (Bearer.present token).toList =
      "Bearer".toList ++ ([' '] ++ (String.ofList token).toList) := by
    have read : (String.ofList token).toList = token := String.toList_ofList
    rw [read]
    exact String.toList_ofList
  have blank : ∀ c ∈ [' '], isBlank c := fun c hc => List.mem_singleton.1 hc ▸ rfl
  have first : payment.headers.first? "authorization" = some (Bearer.present adasToken) := rfl
  obtain ⟨-, -, issued⟩ := bearer_gate vault payment .transfer route
  obtain ⟨parsed, good⟩ := issued created _ _ _ (same _) (by decide) (by decide) blank
  obtain ⟨-, admitted⟩ := good .epoch _ verify_adasToken
  exact ⟨route, created, parsed, admitted payment.headers first (by decide)⟩

end Teller.Gateway
