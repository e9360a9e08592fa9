import Teller.Proofs.Json.Numbers
import Teller.Proofs.Json.Records
import Teller.Proofs.Uuid
import Teller.Token.Claims
import Teller.Token.Payload

/-!
# Payloads there and back

The JSON text of a payload is read as that payload, its times cut to whole seconds. The same text
names an expiry for the registered claims, and no audience.
-/

namespace Teller.Token

open Json Json.Reader

/-! ### Fields -/

/-- The seconds of timestamps fit in 64 bits many times over. -/
theorem second_bounds (t : Timestamp) : -(1 <<< 63) ≤ t.second ∧ t.second < 1 <<< 63 := by
  have lower := t.second_lower
  have upper := t.second_upper
  simp only [Timestamp.firstSecond, Timestamp.lastSecond] at lower upper
  constructor <;> omega

theorem isExact_second (t : Timestamp) : IsExact t.second :=
  ⟨(second_bounds t).1, Int.lt_trans (second_bounds t).2 (by decide)⟩

theorem reads_readUuid (id : Uuid) : Payload.readUuid.Reads (.text (toString id)) id := by
  intro rest stops
  refine (reads_text _ rest stops).bind ?_
  have same : Uuid.ofChars? (toString id).toList = some id := by
    change Uuid.ofChars? (String.ofList id.toChars).toList = some id
    rw [String.toList_ofList, Uuid.ofChars?_toChars]
  rw [same]
  exact yields_pure id rest

theorem reads_readSecond (t : Timestamp) :
    Payload.readSecond.Reads (.integer t.second) t.floor := by
  intro rest stops
  obtain ⟨lower, upper⟩ := second_bounds t
  refine (reads_int64 lower upper rest stops).bind ?_
  rw [Int64.toInt_ofInt_of_le lower upper, Timestamp.ofSeconds?_second]
  exact yields_pure t.floor rest

namespace Payload

/-- What is left of a payload in writing: its times are cut to whole seconds. -/
def written (p : Payload) : Payload :=
  { p with issuedAt := p.issuedAt.floor, expiredAt := p.expiredAt.floor }

theorem fills_slots (p : Payload) :
    Fills slots [("jti", .text (toString p.id)), ("sub", .text p.username),
      ("iat", .integer p.issuedAt.second), ("exp", .integer p.expiredAt.second)] .empty
      ⟨some p.id, some p.username, some p.issuedAt.floor, some p.expiredAt.floor⟩ := by
  refine .known rfl rfl ((reads_readUuid p.id).map _) ?_
  refine .known rfl rfl ((reads_text p.username).map _) ?_
  refine .known rfl rfl ((reads_readSecond p.issuedAt).map _) ?_
  exact .known rfl rfl ((reads_readSecond p.expiredAt).map _) (.nil _)

/-- The JSON text of a payload is read as what is left of it in writing. -/
theorem ofJson?_encode (p : Payload) :
    ofJson? (Utf8.encode p.toJson.chars) = some p.written := by
  have read : reader.Reads p.toJson p.written := p.fills_slots.reads_record rfl
  rw [ofJson?, read.all]
  rfl

end Payload

namespace Claims

theorem reads_attempt {α : Type} {r : Reader α} {v : Value} {x : α} (h : r.Reads v x) :
    (attempt r).Reads v (some x) := fun rest stops => (h.map some rest stops).tryCatch _

theorem reads_timeClaim {n : Int} (fits : IsExact n) :
    timeClaim.Reads (.integer n) (decide (0 ≤ n)) := by
  intro rest stops
  obtain ⟨b, text, front, first⟩ := integerText_start n
  have read := reads_value_integer 1 fits rest stops
  rw [front, List.cons_append] at read ⊢
  refine (yields_start first.not_isBlank _).bind ?_
  rw [if_neg (first.ne (by decide)), if_neg (first.ne (by decide))]
  exact read.bind (yields_pure _ rest)

theorem yields_orNull {α : Type} {r : Reader α} {input rest : List UInt8} {b : UInt8} {x : α}
    (blank : isBlank b = false) (null : b ≠ byte 'n') (h : r.Yields (b :: input) x rest) :
    (Header.orNull r).Yields (b :: input) (some x) rest := by
  refine (yields_peekPastBlanks? blank input).bind ?_
  rw [if_neg (by simpa using null)]
  exact h.bind (yields_pure (some x) rest)

theorem reads_orNull_text (s : String) :
    (Header.orNull Reader.text).Reads (.text s) (some s) := by
  intro rest stops
  have read := reads_text s rest stops
  rw [Value.chars, encode_literal, List.cons_append] at read ⊢
  exact yields_orNull (by decide) (by decide) read

theorem plain_of_mem_uuid {id : Uuid} {c : Char} (h : c ∈ (toString id).toList) :
    0x20 ≤ c.toNat ∧ c ≠ '"' ∧ c ≠ '\\' := by
  have digits : ∀ value < 16, 0x20 ≤ (Uuid.hexDigit value).toNat ∧
      Uuid.hexDigit value ≠ '"' ∧ Uuid.hexDigit value ≠ '\\' := by decide
  change c ∈ (String.ofList id.toChars).toList at h
  rw [String.toList_ofList] at h
  obtain rfl | ⟨value, small, rfl⟩ := Uuid.eq_of_mem_toChars h
  · decide
  · exact digits value small

theorem fills_slots (p : Payload) :
    Fills slots [("jti", .text (toString p.id)), ("sub", .text p.username),
      ("iat", .integer p.issuedAt.second), ("exp", .integer p.expiredAt.second)]
      ⟨[], false, false⟩ ⟨["exp", "sub"], decide (0 ≤ p.expiredAt.second), false⟩ := by
  have subject := reads_attempt (reads_orNull_text p.username)
  have expiry := reads_attempt (reads_timeClaim (isExact_second p.expiredAt))
  have named : Fills slots [("exp", .integer p.expiredAt.second)] ⟨["sub"], false, false⟩
      ⟨["exp", "sub"], decide (0 ≤ p.expiredAt.second), false⟩ := by
    refine .known rfl rfl (fun rest stops => ?_) (.nil _)
    simp only [slot, bind_assoc]
    exact (expiry rest stops).bind (yields_pure _ rest)
  have ignored : Fills slots [("iat", .integer p.issuedAt.second),
      ("exp", .integer p.expiredAt.second)] ⟨["sub"], false, false⟩ _ :=
    .unknown rfl (reads_skipValue_integer p.issuedAt.second) named
  refine .unknown rfl (reads_skipValue_text fun _ => plain_of_mem_uuid) ?_
  refine .known rfl rfl (fun rest stops => ?_) ignored
  simp only [slot, bind_assoc]
  exact (subject rest stops).discard.bind (yields_pure _ rest)

/-- The claims of a payload are acceptable unless it expired before 1970. -/
theorem acceptable_encode (p : Payload) :
    acceptable (Utf8.encode p.toJson.chars) = decide (0 ≤ p.expiredAt.second) := by
  have read : reader.Reads p.toJson ⟨["exp", "sub"], decide (0 ≤ p.expiredAt.second), false⟩ :=
    (fills_slots p).reads_record rfl
  rw [acceptable, read.all]
  simp

end Claims

end Teller.Token
