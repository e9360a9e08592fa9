import Teller.Proofs.Token.Genuine

/-!
# Two kinds of tokens

Whether a token is issued, what it says and how long it is good does not depend on its kind: a
signed and a sealed token of the same secret can stand for one another. Only a token that expired
before 1970 is told from the other kind, as no signed one is accepted then.

And yet no text is a token of both kinds. Whether it begins with the label of sealed tokens tells
which of them it can be: what stands before the first point of the label is the spelling of no
bytes, so it is no header of a signed token.
-/

namespace Teller

/-- Whether a count of nanoseconds since 1970 lies within the representable years. -/
def Timestamp.Represents (nanos : Int) : Prop :=
  firstSecond * nanosPerSecond ≤ nanos ∧ nanos < (lastSecond + 1) * nanosPerSecond

instance (nanos : Int) : Decidable (Timestamp.Represents nanos) :=
  inferInstanceAs (Decidable (_ ∧ _))

theorem Timestamp.represents_of_add? {t later : Timestamp} {d : Duration}
    (h : t.add? d = some later) : Represents (t.nanos + d.nanos) := by
  have sum : later.nanos = t.nanos + d.nanos := ofNanos?_eq_some_iff.1 h
  exact sum ▸ ⟨later.lower, later.upper⟩

namespace Token.Maker

variable {maker : Maker} {id : Uuid} {nonce : Sealed.Nonce} {username : String}
  {lifetime : Duration} {now : Timestamp}

theorem create_of_not_represents (h : ¬Timestamp.Represents (now.floor.nanos + lifetime.nanos)) :
    maker.create id nonce username lifetime now = .error .durationOutOfRange := by
  have none : now.floor.add? lifetime = none :=
    Option.eq_none_iff_forall_ne_some.2 fun _ added => h (Timestamp.represents_of_add? added)
  rw [create, Payload.issue, none]
  rfl

/-- What an issued token comes to when it is verified, unless it expired before 1970. -/
def verdict (p : Payload) (t : Timestamp) : Except Error Payload :=
  if p.expiredAt.floor < t then .error .expired else .ok { p with expiredAt := p.expiredAt.floor }

theorem verify_created_eq_verdict {token : String} {p : Payload}
    (created : maker.create id nonce username lifetime now = .ok (token, p))
    (since : Timestamp.epoch ≤ p.expiredAt) (t : Timestamp) :
    maker.verify token t = verdict p t := by
  obtain ⟨expiredAt, -, rfl, rfl⟩ := create_cases created
  rw [verify_write (maker.accepts_of_epoch_le since), Payload.written, Timestamp.floor_floor]
  rfl

theorem ofSecret_of_size {secret : String} (size : (Utf8.ofString secret).length = 32) :
    ∃ key key', ofSecret .signed secret = .ok (.signed key) ∧
      ofSecret .sealed secret = .ok (.sealed key') ∧ key.bytes = key'.bytes := by
  refine ⟨⟨_, size.ge⟩, ⟨_, size⟩, ?_, ?_, rfl⟩
  · rw [ofSecret, Signed.Key.ofString?, dif_pos size.ge]
    rfl
  · rw [ofSecret, Sealed.Key.ofString?, dif_pos size]
    rfl

/-- The makers of both kinds that a secret of 32 bytes allows issue a token under the same
circumstances, with the same payload or the same error, and find the same in their tokens at each
time. -/
theorem kinds_interchangeable {secret : String} (size : (Utf8.ofString secret).length = 32) :
    ∃ signed sealed, ofSecret .signed secret = .ok signed ∧ ofSecret .sealed secret = .ok sealed ∧
      ∀ (id : Uuid) (nonce nonce' : Sealed.Nonce) (username : String) (lifetime : Duration)
        (now : Timestamp),
        (¬Timestamp.Represents (now.floor.nanos + lifetime.nanos) ∧
          signed.create id nonce username lifetime now = .error .durationOutOfRange ∧
          sealed.create id nonce' username lifetime now = .error .durationOutOfRange) ∨
        Timestamp.Represents (now.floor.nanos + lifetime.nanos) ∧
          ∃ token token' p,
            signed.create id nonce username lifetime now = .ok (token, p) ∧
            sealed.create id nonce' username lifetime now = .ok (token', p) ∧
            p.id = id ∧ p.username = username ∧ p.issuedAt = now.floor ∧
            p.expiredAt.nanos = now.floor.nanos + lifetime.nanos ∧
            (Timestamp.epoch ≤ p.expiredAt → ∀ t,
              signed.verify token t = verdict p t ∧ sealed.verify token' t = verdict p t) := by
  obtain ⟨key, key', signing, sealing, -⟩ := ofSecret_of_size size
  refine ⟨_, _, signing, sealing, fun id nonce nonce' username lifetime now => ?_⟩
  by_cases fits : Timestamp.Represents (now.floor.nanos + lifetime.nanos)
  · have added : now.floor.add? lifetime = some ⟨_, fits.1, fits.2⟩ :=
      Timestamp.ofNanos?_eq_some_iff.2 rfl
    let p : Payload := ⟨id, username, now.floor, ⟨_, fits.1, fits.2⟩⟩
    have created (maker : Maker) (nonce : Sealed.Nonce) :
        maker.create id nonce username lifetime now = .ok (maker.write nonce p, p) :=
      create_of_add? added
    refine .inr ⟨fits, _, _, p, created _ nonce, created _ nonce', rfl, rfl, rfl, rfl, ?_⟩
    intro since t
    exact ⟨verify_created_eq_verdict (created _ nonce) since t,
      verify_created_eq_verdict (created _ nonce') since t⟩
  · exact .inl ⟨fits, create_of_not_represents fits, create_of_not_represents fits⟩

/-- A secret of 32 bytes, which both kinds accept. -/
def digits : String := "12345678901234567890123456789012"

theorem digits_interchangeable :
    (Utf8.ofString digits).length = 32 ∧
      ∃ signed sealed, ofSecret .signed digits = .ok signed ∧
        ofSecret .sealed digits = .ok sealed ∧
        ∃ token token' p,
          signed.create ⟨1⟩ mintNonce "ada" fractional november = .ok (token, p) ∧
          sealed.create ⟨1⟩ mintNonce "ada" fractional november = .ok (token', p) ∧
          ∀ t, signed.verify token t = verdict p t ∧ sealed.verify token' t = verdict p t := by
  have size : (Utf8.ofString digits).length = 32 := by decide
  obtain ⟨signed, sealed, signing, sealing, agree⟩ := kinds_interchangeable size
  refine ⟨size, signed, sealed, signing, sealing, ?_⟩
  have fits : Timestamp.Represents (november.floor.nanos + fractional.nanos) := by decide
  rcases agree ⟨1⟩ mintNonce mintNonce "ada" fractional november with
    ⟨outside, -⟩ | ⟨-, token, token', p, created, created', -, -, -, expiry, verdicts⟩
  · exact absurd fits outside
  · have since : Timestamp.epoch ≤ p.expiredAt := by
      change 0 ≤ p.expiredAt.nanos
      rw [expiry]
      decide
    exact ⟨token, token', p, created, created', verdicts since⟩

end Token.Maker

/-! ### Which kind a text can be of -/

namespace Token

theorem takeWhile_append_point {front : List Char} (h : '.' ∉ front) (rest : List Char) :
    (front ++ '.' :: rest).takeWhile (· ≠ '.') = front := by
  have letters : ∀ c ∈ front, decide (c ≠ '.') = true := fun c hc =>
    decide_eq_true fun point => h (point ▸ hc)
  rw [List.takeWhile_append_of_pos letters]
  simp

/-- A text with the label is no signed token: its first part would spell the header. -/
theorem Signed.not_genuine_of_labelled {key : Signed.Key} {text : String} {p : Payload}
    (labelled : Sealed.label <+: text.toList) : ¬Signed.Genuine key text p := by
  obtain ⟨rest, same⟩ := labelled
  rintro ⟨head, body, tail, cut, parts⟩
  have first : head = ['v', '2'] := by
    rw [← takeWhile_append_point parts.head_pointless (body ++ '.' :: tail),
      ← List.cons_append, ← List.append_assoc, ← cut, ← same]
    rfl
  subst first
  obtain ⟨bytes, decoded, -⟩ := parts.header
  -- The four bits left over after one byte are not zero.
  have unspelled : Base64.decode Base64.urlSafe ['v', '2'] = none := by decide
  rw [unspelled] at decoded
  cases decoded

namespace Maker

/-- The kind of the tokens that a maker issues. -/
def kind : Maker → Kind
  | .signed _ => .signed
  | .sealed _ => .sealed

/-- The only kind of token that a text can be. -/
def apparentKind (text : String) : Kind :=
  if Sealed.label.isPrefixOf text.toList then .sealed else .signed

theorem verify_of_other_kind {maker : Maker} {text : String}
    (other : maker.kind ≠ apparentKind text) (now : Timestamp) :
    maker.verify text now = .error .invalid := by
  refine verify_of_not_authentic ?_ now
  unfold apparentKind at other
  cases maker with
  | signed key =>
    split at other
    · next labelled =>
      refine Option.eq_none_iff_forall_ne_some.2 fun p found => ?_
      exact Signed.not_genuine_of_labelled (List.isPrefixOf_iff_prefix.1 labelled)
        (Signed.authentic?_eq_some_iff.1 found)
    · exact absurd rfl other
  | sealed key =>
    split at other
    · exact absurd rfl other
    · next unlabelled =>
      have unrevealed : Sealed.reveal? key text.toList = none :=
        Sealed.reveal?_of_unlabelled fun labelled =>
          unlabelled (List.isPrefixOf_iff_prefix.2 labelled)
      exact congrArg (·.bind Payload.ofJson?) unrevealed

/-- A token that is issued appears as what it is. -/
theorem apparentKind_write (maker : Maker) (nonce : Sealed.Nonce) (p : Payload) :
    apparentKind (maker.write nonce p) = maker.kind := by
  unfold apparentKind write
  cases maker with
  | signed key =>
    have first : Signed.header.head? = some 'e' := by decide +kernel
    obtain ⟨rest, header⟩ := List.head?_eq_some_iff.1 first
    refine if_neg ?_
    rw [String.toList_ofList, Signed.sign, header]
    exact Bool.false_ne_true
  | sealed key =>
    refine if_pos ?_
    rw [String.toList_ofList, Sealed.hide, Sealed.close]
    exact List.isPrefixOf_iff_prefix.2 (List.prefix_append _ _)

/-- Every text is invalid as a signed token or invalid as a sealed one, under all keys and at all
times; and what a maker of one kind issues is invalid for every maker of the other kind, be it
expired or not. -/
theorem no_token_of_both_kinds :
    (∀ text : String,
      (∀ key now, (Maker.signed key).verify text now = .error .invalid) ∨
        ∀ key now, (Maker.sealed key).verify text now = .error .invalid) ∧
    ∀ maker other : Maker, maker.kind ≠ other.kind →
      ∀ {id nonce username lifetime issued token p},
        maker.create id nonce username lifetime issued = .ok (token, p) →
        ∀ now, other.verify token now = .error .invalid := by
  refine ⟨fun text => ?_, fun maker other apart => ?_⟩
  · cases apparent : apparentKind text with
    | signed =>
      exact .inr fun key now => verify_of_other_kind (by rw [apparent]; exact nofun) now
    | sealed =>
      exact .inl fun key now => verify_of_other_kind (by rw [apparent]; exact nofun) now
  · intro id nonce username lifetime issued token p created now
    obtain ⟨expiredAt, -, rfl, rfl⟩ := create_cases created
    refine verify_of_other_kind ?_ now
    rw [apparentKind_write]
    exact apart.symm

/-- Ada's sealed token is no signed one under the same 32 bytes. -/
theorem quarter_box_unsigned :
    (Maker.sealed Sealed.boxKey).kind ≠ (Maker.signed ⟨Sealed.boxKey.bytes, by decide⟩).kind ∧
      (Maker.sealed Sealed.boxKey).create ⟨1⟩ mintNonce "ada" quarterHour november =
        .ok (Sealed.quarterBox, adaUntil quarterPast) ∧
      (Maker.signed ⟨Sealed.boxKey.bytes, by decide⟩).verify Sealed.quarterBox quarterPast =
        .error .invalid := by
  have apart : (Maker.sealed Sealed.boxKey).kind ≠
      (Maker.signed ⟨Sealed.boxKey.bytes, by decide⟩).kind := nofun
  have created : (Maker.sealed Sealed.boxKey).create ⟨1⟩ mintNonce "ada" quarterHour november =
      .ok (Sealed.quarterBox, adaUntil quarterPast) := rfl
  exact ⟨apart, created, no_token_of_both_kinds.2 _ _ apart created _⟩

end Maker

end Token

end Teller
