import Teller.Proofs.Json.Reading
import Teller.Proofs.Text.Numeral

/-!
# Whole numbers there and back

A whole number is written with a minus if it is negative, and with no zero before other digits. It is
read up to what follows it, exactly as long as it fits in 64 bits.
-/

namespace Teller.Json

open Text

namespace Reader

/-! ### Digits -/

theorem isDigit_byte {c : Char} (digit : c.isDigit) : isDigit (byte c) := by
  simp only [Char.isDigit, Bool.and_eq_true, decide_eq_true_iff, UInt32.le_iff_toNat_le] at digit
  change 48 ≤ c.toNat ∧ c.toNat ≤ 57 at digit
  have value : (byte c).toNat = c.toNat := toNat_byte (by omega)
  simp only [isDigit, Bool.and_eq_true, decide_eq_true_iff, UInt8.le_iff_toNat_le, value]
  exact digit

theorem lt_of_isDigit {c : Char} (digit : c.isDigit) : c.toNat < 0x80 := by
  simp only [Char.isDigit, Bool.and_eq_true, decide_eq_true_iff, UInt32.le_iff_toNat_le] at digit
  change 48 ≤ c.toNat ∧ c.toNat ≤ 57 at digit
  omega

/-- The digits of a number. -/
def numeral (n : Nat) : List UInt8 := (Nat.toDigits 10 n).map byte

theorem isDigit_of_mem_numeral {n : Nat} {b : UInt8} (h : b ∈ numeral n) : isDigit b := by
  obtain ⟨c, hc, rfl⟩ := List.mem_map.1 h
  exact isDigit_byte (isDigit_of_mem_toDigits hc)

theorem encode_digits {text : List Char} (digits : ∀ c ∈ text, c.isDigit) :
    Utf8.encode text = text.map byte := by
  induction text with
  | nil => rfl
  | cons c text ih =>
    rw [Utf8.encode_cons, encodeChar_eq_byte (lt_of_isDigit (digits c List.mem_cons_self)),
      ih fun d hd => digits d (List.mem_cons_of_mem _ hd)]
    rfl

/-- The digits of a number start with a zero only if they are that zero. -/
theorem toDigits_start (n : Nat) :
    ∃ c text, Nat.toDigits 10 n = c :: text ∧ (c = '0' → n = 0) := by
  induction n using Nat.strongRecOn with
  | ind n ih =>
    by_cases small : n < 10
    · exact ⟨n.digitChar, [], Nat.toDigits_of_lt_base small, Nat.digitChar_eq_zero.1⟩
    · have large : 10 ≤ n := Nat.not_lt.1 small
      obtain ⟨c, text, front, zero⟩ := ih (n / 10) (by omega)
      rw [Nat.toDigits_of_base_le (by decide) large, front]
      exact ⟨c, _, rfl, fun h => by have := zero h; omega⟩

/-- Digits are taken to the last if their number fits in 64 bits. -/
theorem absorb_digits {text : List Char} (digits : ∀ c ∈ text, c.isDigit) (n : Nat)
    (fits : Nat.ofDigitChars 10 text n < UInt64.size) :
    absorb n (text.map byte) = (Nat.ofDigitChars 10 text n, text.length) := by
  induction text generalizing n with
  | nil => simp [absorb]
  | cons c text ih =>
    have value : n * 10 + ((byte c).toNat - 48) = 10 * n + (c.toNat - '0'.toNat) := by
      rw [toNat_byte (lt_of_isDigit (digits c List.mem_cons_self)), Nat.mul_comm]
      rfl
    rw [Nat.ofDigitChars_cons] at fits ⊢
    have enough := Nat.lt_of_le_of_lt (le_ofDigitChars text _) fits
    rw [List.map_cons, absorb, value, if_pos enough,
      ih (fun d hd => digits d (List.mem_cons_of_mem _ hd)) _ fits]
    rfl

theorem absorb_numeral {n : Nat} (fits : n < UInt64.size) :
    absorb 0 (numeral n) = (n, (numeral n).length) := by
  have value : Nat.ofDigitChars 10 (Nat.toDigits 10 n) 0 = n :=
    Nat.ofDigitChars_toDigits (by decide) (by decide)
  have all := absorb_digits (fun c => isDigit_of_mem_toDigits (n := n)) 0 (value.symm ▸ fits)
  rw [value] at all
  rw [numeral, all, List.length_map]

/-! ### Lexemes -/

theorem Stops.not_isDigit {rest : List UInt8} (stops : Stops rest) :
    ∀ b ∈ rest.head?, isDigit b = false := by
  intro b hb
  rcases stops b hb with rfl | rfl | rfl <;> decide

theorem yields_digits {front rest : List UInt8} (digit : ∀ b ∈ front, isDigit b)
    (stop : ∀ b ∈ rest.head?, isDigit b = false) : digits.Yields (front ++ rest) front rest := by
  have first : (front ++ rest).takeWhile isDigit = front := by
    rw [List.takeWhile_append_of_pos digit]
    cases rest with
    | nil => simp
    | cons b rest => simp [stop b rfl]
  have last : (front ++ rest).dropWhile isDigit = rest := by
    rw [List.dropWhile_append_of_pos digit]
    cases rest with
    | nil => rfl
    | cons b rest => simp [stop b rfl]
  change (Except.ok ((front ++ rest).takeWhile isDigit), (front ++ rest).dropWhile isDigit) = _
  rw [first, last]

theorem yields_wholePart (atEnd : Problem) (n : Nat) {rest : List UInt8} (stops : Stops rest) :
    (wholePart atEnd).Yields (numeral n ++ rest) (numeral n) rest := by
  obtain ⟨c, text, digits, zero⟩ := toDigits_start n
  have digit : ∀ d ∈ c :: text, d.isDigit := fun d hd => isDigit_of_mem_toDigits (digits ▸ hd)
  unfold numeral
  rw [digits, List.map_cons, List.cons_append]
  refine (yields_next? _ _).bind ?_
  dsimp only
  by_cases h : byte c = byte '0'
  · have same : c.toNat = '0'.toNat := by
      rw [← toNat_byte (lt_of_isDigit (digit c List.mem_cons_self)), h]
      rfl
    obtain rfl := zero (Char.toNat_inj.1 same)
    rw [Nat.toDigits_zero] at digits
    cases digits
    rw [if_pos h]
    refine (yields_peek? _).bind ?_
    cases rest with
    | nil => exact yields_pure _ _
    | cons b rest =>
      have stop := stops.not_isDigit b rfl
      simp only [List.map_nil, List.nil_append, List.head?_cons, stop]
      exact yields_pure _ _
  · rw [if_neg h, if_pos (isDigit_byte (digit c List.mem_cons_self))]
    refine (yields_digits (fun b hb => ?_) stops.not_isDigit).bind (yields_pure _ rest)
    obtain ⟨d, hd, rfl⟩ := List.mem_map.1 hb
    exact isDigit_byte (digit d (List.mem_cons_of_mem _ hd))

/-- A whole number has neither a fraction nor an exponent. -/
theorem yields_lexeme (atEnd : Problem) (n : Nat) {rest : List UInt8} (stops : Stops rest) :
    (lexeme atEnd).Yields (numeral n ++ rest) ⟨numeral n, [], none⟩ rest := by
  have other (b : UInt8) (point : b ≠ byte ',' ∧ b ≠ byte ']' ∧ b ≠ byte '\x7d') :
      rest.head? ≠ some b := by
    intro h
    rcases stops b h with rfl | rfl | rfl
    · exact point.1 rfl
    · exact point.2.1 rfl
    · exact point.2.2 rfl
  have fraction : (fractionPart atEnd).Yields rest [] rest := by
    refine (yields_peek? rest).bind ?_
    rw [if_neg (other _ (by decide))]
    exact yields_pure _ rest
  have exponent : (exponentPart atEnd).Yields rest none rest := by
    refine (yields_peek? rest).bind ?_
    rw [if_neg (not_or.2 ⟨other _ (by decide), other _ (by decide)⟩)]
    exact yields_pure _ rest
  exact (yields_wholePart atEnd n stops).bind
    (fraction.bind (exponent.bind (yields_pure _ rest)))

/-! ### Whole numbers -/

theorem encode_integerText_natural {n : Int} (h : 0 ≤ n) :
    Utf8.encode (integerText n) = numeral n.toNat := by
  rw [integerText, Int.toString_eq_repr, Int.repr_eq_if, if_pos h, Nat.toList_repr]
  exact encode_digits fun c => isDigit_of_mem_toDigits

theorem encode_integerText_negative {n : Int} (h : n < 0) :
    Utf8.encode (integerText n) = byte '-' :: numeral n.natAbs := by
  have size : (-n).toNat = n.natAbs := by omega
  rw [integerText, Int.toString_eq_repr, Int.repr_eq_if, if_neg (Int.not_le.2 h), size,
    String.toList_append, Utf8.encode_append, Nat.toList_repr,
    encode_digits fun c => isDigit_of_mem_toDigits]
  rfl

/-- The whole numbers that a reader keeps exactly: 64 bits, without a sign or with a minus. -/
def IsExact (n : Int) : Prop := -(1 <<< 63) ≤ n ∧ n < UInt64.size

/-- A number without fraction and exponent, as it is kept. -/
def kept (n : Int) : Number := if 0 ≤ n then .natural n.toNat else .negative n

theorem numeral_ne_nil (n : Nat) : numeral n ≠ [] := by
  obtain ⟨c, text, digits, -⟩ := toDigits_start n
  simp [numeral, digits]

/-- The first byte of a numeral is a digit. -/
theorem numeral_start (n : Nat) : ∃ b text, numeral n = b :: text ∧ isDigit b := by
  obtain ⟨b, text, front⟩ := List.exists_cons_of_ne_nil (numeral_ne_nil n)
  exact ⟨b, text, front, isDigit_of_mem_numeral (front ▸ List.mem_cons_self)⟩

theorem yields_numberValue_natural {n : Nat} (fits : n < UInt64.size) (rest : List UInt8) :
    (numberValue false ⟨numeral n, [], none⟩).Yields rest (.natural n) rest := by
  unfold numberValue
  simp only [absorb_numeral fits, Nat.sub_self, List.isEmpty_nil, Option.isNone_none, and_self,
    if_true, Bool.not_false]
  exact yields_pure _ rest

theorem yields_numberValue_negative {n : Nat} (pos : 0 < n) (fits : n ≤ 1 <<< 63)
    (rest : List UInt8) :
    (numberValue true ⟨numeral n, [], none⟩).Yields rest (.negative (-n)) rest := by
  have size : n < UInt64.size := Nat.lt_of_le_of_lt fits (by decide)
  unfold numberValue
  simp only [absorb_numeral size, Nat.sub_self, List.isEmpty_nil, Option.isNone_none, and_self,
    if_true, Bool.not_true, Bool.false_eq_true, if_false]
  rw [if_neg (not_or.2 ⟨Nat.pos_iff_ne_zero.1 pos, Nat.not_lt.2 fits⟩)]
  exact yields_pure _ rest

theorem reads_number {n : Int} (fits : IsExact n) : number.Reads (.integer n) (kept n) := by
  intro rest stops
  rw [Value.chars]
  by_cases sign : 0 ≤ n
  · obtain ⟨b, text, front, digit⟩ := numeral_start n.toNat
    have minus : b ≠ byte '-' := by
      rintro rfl
      exact absurd digit (by decide)
    have lexeme := yields_lexeme .endOfValue n.toNat stops
    rw [encode_integerText_natural sign, kept, if_pos sign]
    unfold number
    refine (yields_peek? _).bind ?_
    rw [front] at lexeme ⊢
    simp only [List.cons_append, List.head?_cons, Option.some.injEq, minus, decide_false,
      if_false]
    refine lexeme.bind ?_
    rw [← front]
    exact yields_numberValue_natural (by have := fits.2; omega) rest
  · have negative : n < 0 := Int.not_le.1 sign
    have value : n = -(n.natAbs : Int) := by omega
    rw [encode_integerText_negative negative, kept, if_neg sign]
    refine (yields_peek? _).bind ?_
    simp only [List.cons_append, List.head?_cons, decide_true, if_true]
    refine (yields_advance _ _).bind ((yields_lexeme .endOfValue _ stops).bind ?_)
    rw [value]
    have number := yields_numberValue_negative (n := n.natAbs) (by omega)
      (by have := fits.1; omega) rest
    rw [Int.natAbs_neg, Int.natAbs_natCast]
    exact number

/-- Starts as the text of a number does. -/
def StartsNumber (b : UInt8) : Prop := b = byte '-' ∨ isDigit b

/-- No other kind of value starts as a number does. -/
theorem StartsNumber.ne {b c : UInt8} (first : StartsNumber b)
    (other : c ≠ byte '-' ∧ isDigit c = false) : b ≠ c := by
  rintro rfl
  exact first.elim other.1 fun digit => Bool.false_ne_true (other.2.symm.trans digit)

theorem StartsNumber.not_isBlank {b : UInt8} (first : StartsNumber b) : isBlank b = false := by
  have ne {c : UInt8} (other : c ≠ byte '-' ∧ isDigit c = false) : decide (b = c) = false :=
    decide_eq_false (first.ne other)
  unfold isBlank
  rw [ne (by decide), ne (by decide), ne (by decide), ne (by decide)]
  rfl

theorem integerText_start (n : Int) :
    ∃ b text, Utf8.encode (Value.integer n).chars = b :: text ∧ StartsNumber b := by
  rw [Value.chars]
  by_cases sign : 0 ≤ n
  · obtain ⟨b, text, front, digit⟩ := numeral_start n.toNat
    exact ⟨b, text, (encode_integerText_natural sign).trans front, .inr digit⟩
  · exact ⟨_, _, encode_integerText_negative (Int.not_le.1 sign), .inl rfl⟩

/-- A reader that looks at the first byte and leaves numbers to `number`. -/
theorem Reads.of_number {α : Type} {f : UInt8 → Reader α} {n : Int} {x : α} (fits : IsExact n)
    (h : ∀ b input rest, StartsNumber b → number.Yields input (kept n) rest →
      (f b).Yields input x rest) : (start >>= f).Reads (.integer n) x := by
  intro rest stops
  obtain ⟨b, text, front, first⟩ := integerText_start n
  have read := reads_number fits rest stops
  rw [front, List.cons_append] at read ⊢
  exact (yields_start first.not_isBlank _).bind (h b _ _ first read)

theorem reads_int64 {n : Int} (lower : -(1 <<< 63) ≤ n) (upper : n < 1 <<< 63) :
    int64.Reads (.integer n) (Int64.ofInt n) := by
  refine .of_number ⟨lower, Int.lt_trans upper (by decide)⟩ fun b input rest first read => ?_
  rw [if_pos (show b = byte '-' ∨ isDigit b from first)]
  refine read.bind ?_
  by_cases sign : 0 ≤ n
  · have value : (n.toNat : Int) = n := Int.toNat_of_nonneg sign
    have fits : n.toNat < 1 <<< 63 := by omega
    simp only [kept, if_pos sign, if_pos fits, ← Int64.ofInt_eq_ofNat, value]
    exact yields_pure _ rest
  · simp only [kept, if_neg sign]
    exact yields_pure _ rest

theorem reads_value_integer (depth : Nat) {n : Int} (fits : IsExact n) :
    (value (depth + 1)).Reads (.integer n) (.integer n) := by
  refine .of_number fits fun b input rest first read => ?_
  rw [if_neg (first.ne (by decide)), if_neg (first.ne (by decide)), if_neg (first.ne (by decide)),
    if_pos (show b = byte '-' ∨ isDigit b from first)]
  refine read.bind ?_
  by_cases sign : 0 ≤ n
  · simp only [kept, if_pos sign, Int.toNat_of_nonneg sign]
    exact yields_pure _ rest
  · simp only [kept, if_neg sign]
    exact yields_pure _ rest

theorem reads_skipValue_integer (n : Int) : skipValue.Reads (.integer n) () := by
  intro rest stops
  obtain ⟨b, text, front, first⟩ := integerText_start n
  rw [front, List.cons_append]
  refine .skipValue first.not_isBlank (first.ne (by decide)) (first.ne (by decide)) ?_
  rw [Value.chars] at front
  unfold skipScalar
  rw [if_neg (first.ne (by decide)), if_neg (first.ne (by decide)),
    if_neg (first.ne (by decide))]
  by_cases sign : 0 ≤ n
  · have digit : isDigit b := by
      refine isDigit_of_mem_numeral (n := n.toNat) ?_
      rw [← encode_integerText_natural sign, front]
      exact List.mem_cons_self
    have minus : b ≠ byte '-' := by
      rintro rfl
      exact absurd digit (by decide)
    rw [if_neg minus, if_pos digit, ← List.cons_append, ← front, encode_integerText_natural sign]
    exact (yields_lexeme .badNumber _ stops).discard
  · rw [encode_integerText_negative (Int.not_le.1 sign), List.cons.injEq] at front
    obtain ⟨rfl, rfl⟩ := front
    rw [if_pos rfl]
    exact (yields_advance _ _).bind (yields_lexeme .badNumber _ stops).discard

end Reader

end Teller.Json
