import Teller.Uuid

/-!
# Identifiers there and back

The hyphenated form of an identifier reads as that identifier: no digit is lost between the hyphens,
and the text has none of the decorations that reading also takes.
-/

namespace Teller.Uuid

/-! ### Hexadecimal digits -/

theorem hexValue?_hexDigit {value : Nat} (small : value < 16) :
    hexValue? (hexDigit value) = some value := by
  have all : ∀ value < 16, hexValue? (hexDigit value) = some value := by decide
  exact all value small

@[simp] theorem length_hexDigits (count n : Nat) : (hexDigits count n).length = count := by
  induction count generalizing n with
  | zero => rfl
  | succ count ih => rw [hexDigits, List.length_append, ih, List.length_singleton]

/-- A number is read from enough of its digits. -/
theorem ofHexDigits?_hexDigits {count n : Nat} (small : n < Nat.pow 16 count) :
    ofHexDigits? (hexDigits count n) = some n := by
  induction count generalizing n with
  | zero =>
    have zero : n = 0 := Nat.lt_one_iff.1 small
    rw [zero]
    rfl
  | succ count ih =>
    have fewer : n / 16 < Nat.pow 16 count := Nat.div_lt_of_lt_mul (Nat.mul_comm _ _ ▸ small)
    have front := ih fewer
    unfold ofHexDigits? at front ⊢
    rw [hexDigits, List.foldlM_append, front]
    have last := hexValue?_hexDigit (Nat.mod_lt n (by decide : 0 < 16))
    simp only [Option.bind_eq_bind, Option.bind_some, List.foldlM_cons, List.foldlM_nil, last,
      Option.map_some, Option.pure_def, Option.some.injEq]
    omega

theorem exists_of_mem_hexDigits {count n : Nat} {c : Char} (h : c ∈ hexDigits count n) :
    ∃ value < 16, c = hexDigit value := by
  induction count generalizing n with
  | zero => cases h
  | succ count ih =>
    rw [hexDigits, List.mem_append, List.mem_singleton] at h
    rcases h with h | rfl
    · exact ih h
    · exact ⟨n % 16, Nat.mod_lt n (by decide), rfl⟩

/-! ### Groups -/

/-- Digits that were grouped come back without the hyphens. -/
theorem ungroup?_groups {a b c d e : List Char} (ha : a.length = 8) (hb : b.length = 4)
    (hc : c.length = 4) (hd : d.length = 4) (he : e.length = 12) :
    ungroup? (a ++ '-' :: b ++ '-' :: c ++ '-' :: d ++ '-' :: e) =
      some (a ++ b ++ c ++ d ++ e) := by
  simp [ungroup?, List.drop_append, List.drop_eq_nil_of_le, ha, hb, hc, hd, he]

/-- A text that starts with a digit and has 36 letters bears no decoration. -/
theorem undecorate_of_digit {value : Nat} {text : List Char} (digit : value < 16)
    (start : text.head? = some (hexDigit value)) (length : text.length = 36) :
    undecorate text = text := by
  have letters : ∀ value < 16, (hexDigit value).toLower ≠ 'u' := by decide
  have urn : (text.take 9).map Char.toLower ≠ urnLabel := by
    cases text with
    | nil => cases start
    | cons c text =>
      cases start
      intro label
      exact letters value digit (List.cons.inj label).1
  rw [undecorate, if_neg (by simp [length]), if_neg urn]

theorem length_toChars (u : Uuid) : u.toChars.length = 36 := by simp [toChars]

theorem eq_of_mem_toChars {u : Uuid} {c : Char} (h : c ∈ u.toChars) :
    c = '-' ∨ ∃ value < 16, c = hexDigit value := by
  have digit {start size : Nat} (h : c ∈ ((hexDigits 32 u.bits.toNat).drop start).take size) :
      ∃ value < 16, c = hexDigit value :=
    exists_of_mem_hexDigits (List.mem_of_mem_drop (List.mem_of_mem_take h))
  simp only [toChars, List.mem_append, List.mem_cons, or_assoc] at h
  rcases h with h | h | h | h | h | h | h | h | h
  · exact .inr (digit h)
  · exact .inl h
  · exact .inr (digit h)
  · exact .inl h
  · exact .inr (digit h)
  · exact .inl h
  · exact .inr (digit h)
  · exact .inl h
  · exact .inr (digit h)

theorem head?_toChars (u : Uuid) : ∃ value < 16, u.toChars.head? = some (hexDigit value) := by
  have ne : hexDigits 32 u.bits.toNat ≠ [] := by
    rw [← List.length_pos_iff, length_hexDigits]
    decide
  obtain ⟨c, rest, digits⟩ := List.exists_cons_of_ne_nil ne
  obtain ⟨value, digit, rfl⟩ := exists_of_mem_hexDigits (digits ▸ List.mem_cons_self)
  rw [toChars, digits]
  exact ⟨value, digit, rfl⟩

theorem ungroup?_toChars (u : Uuid) : ungroup? u.toChars = some (hexDigits 32 u.bits.toNat) := by
  have length : (hexDigits 32 u.bits.toNat).length = 32 := length_hexDigits 32 _
  unfold toChars
  generalize hexDigits 32 u.bits.toNat = digits at length ⊢
  refine (ungroup?_groups ?_ ?_ ?_ ?_ ?_).trans (congrArg some ?_)
  case refine_6 =>
    dsimp only
    rw [List.drop_zero, ← List.take_add, ← List.take_add, ← List.take_add, ← List.take_add,
      List.take_of_length_le (Nat.le_of_eq length)]
  all_goals simp [length]

/-- An identifier is read from its hyphenated form. -/
theorem ofChars?_toChars (u : Uuid) : ofChars? u.toChars = some u := by
  obtain ⟨value, digit, start⟩ := head?_toChars u
  have bound : u.bits.toNat < Nat.pow 16 32 := u.bits.isLt
  have length := length_toChars u
  rw [ofChars?, if_neg (by omega), undecorate_of_digit digit start length, ungroup?_toChars,
    Option.bind_some, ofDigits?, ofHexDigits?_hexDigits bound, Option.map_some,
    BitVec.ofNat_toNat, BitVec.setWidth_eq]

end Teller.Uuid
