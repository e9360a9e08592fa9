import Mathlib.Data.Nat.Digits.Defs
import Teller.Proofs.Text.Base64
import Teller.Proofs.Token.Payload
import Teller.Token.Signed

/-!
# How long tokens are

A signed token is not much longer than the name of its user: the header and the signature have a
fixed length, and so have all claims but the subject, up to the digits of the times.
-/

namespace Teller

/-! ### Texts -/

theorem length_flatMap_le {α β : Type} {f : α → List β} {most : Nat}
    (each : ∀ x, (f x).length ≤ most) (xs : List α) :
    (xs.flatMap f).length ≤ most * xs.length := by
  induction xs with
  | nil => exact Nat.le_refl 0
  | cons x xs ih =>
    rw [List.flatMap_cons, List.length_append, List.length_cons, Nat.mul_succ]
    exact (Nat.add_le_add (each x) ih).trans_eq (Nat.add_comm _ _)

theorem length_le_flatMap {α β : Type} {f : α → List β} (each : ∀ x, f x ≠ []) (xs : List α) :
    xs.length ≤ (xs.flatMap f).length := by
  induction xs with
  | nil => exact Nat.le_refl 0
  | cons x xs ih =>
    rw [List.flatMap_cons, List.length_append, List.length_cons, Nat.add_comm]
    exact Nat.add_le_add (List.length_pos_iff.2 (each x)) ih

theorem Utf8.length_encode_le (text : List Char) : (encode text).length ≤ 4 * text.length := by
  refine length_flatMap_le (fun c => ?_) text
  simp only [encodeChar]
  split_ifs <;> simp

theorem Utf8.length_le_encode (text : List Char) : text.length ≤ (encode text).length :=
  length_le_flatMap encodeChar_ne_nil text

namespace Json

theorem escape_ne_nil (c : Char) : escape c ≠ [] := by
  rcases Reader.escape_cases c with ⟨_, -, written⟩ | ⟨-, written⟩ | ⟨-, -, -, written⟩ <;>
    simp [written]

theorem length_le_literal (text : List Char) : text.length ≤ (literal text).length := by
  have inner := length_le_flatMap escape_ne_nil text
  rw [literal, List.length_append, List.length_cons]
  omega

theorem length_literal_le (text : List Char) : (literal text).length ≤ 6 * text.length + 2 := by
  have inner : (text.flatMap escape).length ≤ 6 * text.length := by
    refine length_flatMap_le (fun c => ?_) text
    rcases Reader.escape_cases c with ⟨_, -, written⟩ | ⟨-, written⟩ | ⟨-, -, -, written⟩ <;>
      simp [written]
  rw [literal, List.length_append, List.length_cons, List.length_singleton]
  omega

/-- A sign and up to nineteen digits. -/
theorem length_integerText_le {n : Int} (lower : -(1 <<< 63) ≤ n) (upper : n < 1 <<< 63) :
    (integerText n).length ≤ 20 := by
  have digits {m : Nat} (small : m < 10 ^ 19) : (Nat.toDigits 10 m).length ≤ 19 :=
    Nat.toDigits_length 10 m 19 (by decide) small
  rw [integerText, Int.toString_eq_repr, Int.repr_eq_if]
  split
  · rw [Nat.toList_repr]
    exact Nat.le_succ_of_le (digits (by omega))
  · rw [String.toList_append, List.length_append, Nat.toList_repr]
    exact Nat.add_le_add (Nat.le_refl 1) (digits (by omega))

end Json

/-! ### Tokens -/

namespace Token

open Json

theorem Payload.length_toJson_le (p : Payload) :
    p.toJson.chars.length ≤ 6 * p.username.length + 300 := by
  have id := length_literal_le (toString p.id).toList
  have subject := length_literal_le p.username.toList
  have issued := length_integerText_le (second_bounds p.issuedAt).1 (second_bounds p.issuedAt).2
  have expired := length_integerText_le (second_bounds p.expiredAt).1 (second_bounds p.expiredAt).2
  have written : (toString p.id).toList = p.id.toChars := String.toList_ofList
  rw [written, Uuid.length_toChars] at id
  rw [String.length_toList] at subject
  have names : (literal "jti".toList).length = 5 ∧ (literal "sub".toList).length = 5 ∧
      (literal "iat".toList).length = 5 ∧ (literal "exp".toList).length = 5 := by decide
  simp only [toJson, Value.chars, memberTexts, commas, List.length_append, List.length_cons,
    List.length_nil, written]
  omega

/-- A segment has four letters for three bytes, and a character takes at most four bytes. -/
theorem Signed.length_segment_le (text : List Char) :
    (segment (Utf8.encode text)).length ≤ 6 * text.length + 1 := by
  have bytes := Utf8.length_encode_le text
  rw [segment, Base64.length_encode]
  omega

theorem Signed.length_sign_le (key : Key) (p : Payload) :
    (sign key p).length ≤ 36 * p.username.length + 2000 := by
  have head : header.length = 36 := by decide +kernel
  have claims := p.length_toJson_le
  have body := length_segment_le p.toJson.chars
  have tail (message : List Char) : (signature key message).length = 43 := by
    rw [signature, segment, Base64.length_encode, Crypto.Sha256.length_hmac]
  simp only [sign, List.length_append, List.length_cons, head, tail]
  omega

end Token

end Teller
