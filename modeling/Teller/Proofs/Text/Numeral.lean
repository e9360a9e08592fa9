import Teller.Text.Numeral

/-!
# Digits there and back

The digits of a number are read as that number, as long as it fits in 64 bits.
-/

namespace Teller.Text

theorem isDigit_of_mem_toDigits {n : Nat} {c : Char} (h : c ∈ Nat.toDigits 10 n) : c.isDigit :=
  Nat.isDigit_of_mem_toDigits (by decide) (by decide) h

theorem le_ofDigitChars (text : List Char) (n : Nat) : n ≤ Nat.ofDigitChars 10 text n := by
  induction text generalizing n with
  | nil => simp
  | cons c text ih =>
    rw [Nat.ofDigitChars_cons]
    have := ih (10 * n + (c.toNat - '0'.toNat))
    omega

theorem zero_le_of_isDigit {c : Char} (digit : c.isDigit) : '0'.toNat ≤ c.toNat := by
  simp only [Char.isDigit, Bool.and_eq_true, decide_eq_true_iff, UInt32.le_iff_toNat_le] at digit
  exact digit.1

/-- Digits are taken to the last if their number fits. -/
theorem foldlM_takeDigit {text : List Char} (digits : ∀ c ∈ text, c.isDigit) (n : Nat)
    (fits : Nat.ofDigitChars 10 text n ≤ 9223372036854775807) :
    text.foldlM (takeDigit false) (n : Int) = .ok (Nat.ofDigitChars 10 text n : Int) := by
  -- The digits so far are any number: it only grows, so a result in range was in range before.
  induction text generalizing n with
  | nil =>
    rw [Nat.ofDigitChars_nil]
    rfl
  | cons c text ih =>
    have digit := digits c List.mem_cons_self
    rw [Nat.ofDigitChars_cons] at fits ⊢
    have small := le_ofDigitChars text (10 * n + (c.toNat - '0'.toNat))
    have taken : takeDigit false n c = .ok ((10 * n + (c.toNat - '0'.toNat) : Nat) : Int) := by
      have value : (n : Int) * 10 + (c.toNat - '0'.toNat) =
          ((10 * n + (c.toNat - '0'.toNat) : Nat) : Int) := by
        have := zero_le_of_isDigit digit
        omega
      unfold takeDigit
      rw [if_pos digit]
      dsimp only
      rw [if_neg Bool.false_ne_true, value, if_neg, if_neg]
      · exact Int.not_lt.2 (Int.le_trans (Int.ofNat_le.2 (Nat.le_trans small fits)) (by decide))
      · exact Int.not_lt.2 (Int.le_trans (by decide) (Int.natCast_nonneg _))
    rw [List.foldlM_cons, taken]
    exact ih (fun d hd => digits d (List.mem_cons_of_mem _ hd)) _ fits

theorem int64?_toDigits {n : Nat} (fits : n ≤ 9223372036854775807) :
    int64? (Nat.toDigits 10 n) = .ok (Int64.ofInt n) := by
  have value : Nat.ofDigitChars 10 (Nat.toDigits 10 n) 0 = n :=
    Nat.ofDigitChars_toDigits (by decide) (by decide)
  have digits : ∀ c ∈ Nat.toDigits 10 n, c.isDigit := fun c => isDigit_of_mem_toDigits
  have taken := foldlM_takeDigit digits 0 (value.symm ▸ fits)
  rw [value] at taken
  unfold int64?
  split
  · next none => exact absurd none Nat.toDigits_ne_nil
  · next sign => exact absurd (digits '+' (sign ▸ List.mem_cons_self)) (by decide)
  · next sign => exact absurd (digits '-' (sign ▸ List.mem_cons_self)) (by decide)
  · next sign => exact absurd (digits '-' (sign ▸ List.mem_cons_self)) (by decide)
  · next sign => exact absurd (digits '+' (sign ▸ List.mem_cons_self)) (by decide)
  · exact congrArg (Except.map Int64.ofInt) taken

end Teller.Text
