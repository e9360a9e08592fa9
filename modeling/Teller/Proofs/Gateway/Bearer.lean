import Teller.Gateway.Bearer
import Teller.Proofs.Text.Fields
import Teller.Proofs.Token.Signed

/-!
# Presenting a token

A token is presented in the second field of an authorization value, whatever blanks separate it from
the scheme and in whatever case the scheme is written. Whatever is presented there, what comes of it
is the payload that the maker finds in it, or a refusal.
-/

namespace Teller

namespace Gateway.Bearer

open Text

/-- The letters of the scheme in either case. -/
def schemeLetters : List Char := "bearBEAR".toList

theorem subset_of_scheme {name : List Char} (bearer : name.map Char.toLower = scheme) :
    name ⊆ schemeLetters := by
  intro c hc
  have letter : c.toLower ∈ scheme := bearer ▸ List.mem_map_of_mem hc
  have small : c.toNat < 128 := by
    have ascii : scheme.all (·.toNat < 128) = true := by decide
    unfold Char.toLower at letter
    split at letter
    · next upper =>
      have bounds : 65 ≤ c.toNat ∧ c.toNat ≤ 90 := upper
      omega
    · simpa using List.all_eq_true.1 ascii c letter
  have known : ∀ n < 128, (Char.ofNat n).toLower ∈ scheme → Char.ofNat n ∈ schemeLetters := by
    decide
  have h := known c.toNat small
  rw [Char.ofNat_toNat] at h
  exact h letter

/-- Letters of the scheme, in either case, are not blank. -/
theorem unbroken_of_scheme {name : List Char} (bearer : name.map Char.toLower = scheme) :
    ∀ c ∈ name, isBlank c = false := by
  have known : schemeLetters.all (!isBlank ·) = true := by decide
  intro c hc
  simpa using List.all_eq_true.1 known c (subset_of_scheme bearer hc)

theorem unbroken_of_token {token : List Char} (letters : token ⊆ Token.Signed.tokenChars) :
    ∀ c ∈ token, isBlank c = false := by
  have known : Token.Signed.tokenChars.all (!isBlank ·) = true := by decide +kernel
  intro c hc
  simpa using List.all_eq_true.1 known c (letters hc)

/-- A value without two fields presents nothing. -/
theorem parse_of_no_fields {value : String}
    (h : ∀ first second, ¬TwoFields value.toList first second) :
    parse value = .error (.unauthorized "invalid authorization header format") := by
  have none : firstTwoFields? value.toList = none :=
    Option.eq_none_iff_forall_ne_some.2 fun _ found => h _ _ (firstTwoFields?_eq_some_iff.1 found)
  rw [parse, none]

/-- The second field of a value is the token, if the first one is the scheme. -/
theorem parse_of_fields {value : String} {first second : List Char}
    (h : TwoFields value.toList first second) : parse value =
      if first.map Char.toLower = scheme then .ok (String.ofList second)
      else .error (.unauthorized ("unsupported authorization type " ++ String.ofList first)) := by
  rw [parse, firstTwoFields?_eq_some_iff.2 h]

/-- Whatever stands in the second field of an authorization value is taken for the token. -/
theorem parse_append {name gap token : List Char} (bearer : name.map Char.toLower = scheme)
    (apart : gap ≠ []) (blank : ∀ c ∈ gap, isBlank c) (ne : token ≠ [])
    (unbroken : ∀ c ∈ token, isBlank c = false) :
    parse (String.ofList (name ++ (gap ++ token))) = .ok (String.ofList token) := by
  have named : name ≠ [] := by
    rintro rfl
    cases bearer
  have fields : TwoFields (String.ofList (name ++ (gap ++ token))).toList name token := by
    rw [String.toList_ofList]
    exact twoFields_append named (unbroken_of_scheme bearer) apart blank ne unbroken
  rw [parse_of_fields fields, if_pos bearer]

theorem status_of_unreadable {value : String} {f : Failure} (h : parse value = .error f) :
    f.status = 401 := by
  unfold parse at h
  split at h
  · cases h
    rfl
  · split at h
    · cases h
    · cases h
      rfl

theorem status_of_unverified {maker : Token.Maker} {token : String} {now : Timestamp}
    {e : Token.Error} (h : maker.verify token now = .error e) :
    (Failure.ofToken e).status = 401 := by
  unfold Token.Maker.verify at h
  split at h
  · cases h
    rfl
  · next payload _ =>
    unfold Token.Payload.checkExpiry at h
    split at h
    · cases h
      rfl
    · cases h

/-- What comes of a request that presents something. -/
theorem authenticate_of_some {maker : Token.Maker} {now : Timestamp} {headers : Headers}
    {value : String} (h : headers.text? "authorization" = some value) :
    authenticate maker now headers =
      parse value >>= fun token => (maker.verify token now).mapError Failure.ofToken := by
  rw [authenticate, h]

/-- A request is refused, or its authorization value presents a token in which a payload is
genuine. -/
theorem authenticate_cases (maker : Token.Maker) (now : Timestamp) (headers : Headers) :
    (∃ f, authenticate maker now headers = .error f ∧ f.status = 401) ∨
      ∃ value token payload, headers.text? "authorization" = some value ∧
        parse value = .ok token ∧ maker.verify token now = .ok payload ∧
        authenticate maker now headers = .ok payload := by
  cases hvalue : headers.text? "authorization" with
  | none =>
    rw [authenticate, hvalue]
    exact .inl ⟨_, rfl, rfl⟩
  | some value =>
    rw [authenticate_of_some hvalue]
    cases htoken : parse value with
    | error f => exact .inl ⟨f, rfl, status_of_unreadable htoken⟩
    | ok token =>
      have verifies : (Except.ok token >>= fun token =>
          (maker.verify token now).mapError Failure.ofToken) =
            (maker.verify token now).mapError Failure.ofToken := rfl
      rw [verifies]
      cases hverify : maker.verify token now with
      | error e => exact .inl ⟨.ofToken e, rfl, status_of_unverified hverify⟩
      | ok payload => exact .inr ⟨value, token, payload, rfl, htoken, hverify, rfl⟩

/-- The payload comes from the token in the authorization value, in which it is genuine. -/
theorem authenticate_eq_ok_iff {maker : Token.Maker} {now : Timestamp} {headers : Headers}
    {payload : Token.Payload} :
    authenticate maker now headers = .ok payload ↔
      ∃ value token, headers.text? "authorization" = some value ∧ parse value = .ok token ∧
        maker.verify token now = .ok payload := by
  constructor
  · intro h
    rcases authenticate_cases maker now headers with
      ⟨f, refused, -⟩ | ⟨value, token, found, hvalue, htoken, hverify, taken⟩
    · rw [refused] at h
      cases h
    · rw [taken] at h
      cases h
      exact ⟨value, token, hvalue, htoken, hverify⟩
  · rintro ⟨value, token, hvalue, htoken, hverify⟩
    rw [authenticate_of_some hvalue, htoken]
    exact congrArg (Except.mapError Failure.ofToken) hverify

/-- Whoever is refused is told to authenticate. -/
theorem status_of_refused {maker : Token.Maker} {now : Timestamp} {headers : Headers} {f : Failure}
    (h : authenticate maker now headers = .error f) : f.status = 401 := by
  rcases authenticate_cases maker now headers with
    ⟨g, refused, status⟩ | ⟨value, token, payload, -, -, -, taken⟩
  · rw [refused] at h
    cases h
    exact status
  · rw [taken] at h
    cases h

/-! ### Presenting a token -/

/-- The authorization value that presents a token. -/
def present (token : List Char) : String := String.ofList ("Bearer".toList ++ ([' '] ++ token))

/-- A value that presents a token is usable as text, if it has no blanks but spaces and tabs. -/
theorem isPlain_of_append {value : String} {name gap token : List Char}
    (same : value.toList = name ++ (gap ++ token)) (bearer : name.map Char.toLower = scheme)
    (spaces : gap ⊆ [' ', '\t']) (letters : token ⊆ Token.Signed.tokenChars) : isPlain value := by
  have known : (schemeLetters ++ ([' ', '\t'] ++ Token.Signed.tokenChars)).all (fun c =>
      (0x20 ≤ c.toNat && c.toNat < 0x7f) || c = '\t') = true := by decide +kernel
  rw [isPlain, same, List.all_eq_true]
  intro c hc
  refine List.all_eq_true.1 known c ?_
  simp only [List.mem_append] at hc ⊢
  rcases hc with hc | hc | hc
  · exact .inl (subset_of_scheme bearer hc)
  · exact .inr (.inl (spaces hc))
  · exact .inr (.inr (letters hc))

/-- Who presents a genuine token is taken for its subject. -/
theorem authenticate_present {maker : Token.Maker} {now : Timestamp} {headers : Headers}
    {token : List Char} {payload : Token.Payload} (ne : token ≠ [])
    (letters : token ⊆ Token.Signed.tokenChars)
    (first : headers.first? "authorization" = some (present token))
    (verified : maker.verify (String.ofList token) now = .ok payload) :
    authenticate maker now headers = .ok payload := by
  have named : "Bearer".toList.map Char.toLower = scheme := by decide
  have blank : ∀ c ∈ [' '], isBlank c := fun c hc => List.mem_singleton.1 hc ▸ rfl
  have parsed : parse (present token) = .ok (String.ofList token) :=
    parse_append named (List.cons_ne_nil _ _) blank ne (unbroken_of_token letters)
  have plain : isPlain (present token) :=
    isPlain_of_append String.toList_ofList named (by simp) letters
  have shown : headers.text? "authorization" = some (present token) := by
    rw [Headers.text?, first, Option.filter_some, if_pos plain]
  exact authenticate_eq_ok_iff.2 ⟨present token, _, shown, parsed, verified⟩

end Gateway.Bearer

end Teller
