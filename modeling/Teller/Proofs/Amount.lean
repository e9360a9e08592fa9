import Teller.Amount

/-!
# Amounts as integers

Where nothing leaves the range, amounts are calculated with as integers are.
-/

namespace Teller.Amount

/-- No amount but the least one leaves the range when its sign is changed. -/
theorem toInt_neg {n : Int64} (h : n ≠ Int64.minValue) : (-n).toInt = -n.toInt := by
  have lower := Int64.le_toInt n
  have upper := Int64.toInt_lt n
  have least : n.toInt ≠ -2 ^ 63 := fun e => h (Int64.toInt_inj.1 e)
  rw [Int64.toInt_neg]
  exact Int.bmod_eq_of_le (by omega) (by omega)

theorem toInt_neg_of_pos {n : Int64} (h : 0 < n.toInt) : (-n).toInt = -n.toInt := by
  refine toInt_neg fun least => ?_
  rw [least] at h
  exact absurd h (by decide)

/-- A sum that is in range is the sum of the integers. -/
theorem toInt_add {a b : Int64} (h : (add? a b).isSome) :
    (a + b).toInt = a.toInt + b.toInt := by
  obtain ⟨c, hc⟩ := Option.isSome_iff_exists.1 h
  rw [add?_eq_some_iff] at hc
  have lower := Int64.le_toInt c
  have upper := Int64.toInt_lt c
  rw [Int64.toInt_add, ← hc]
  exact Int.bmod_eq_of_le (by omega) (by omega)

theorem eq_add {a b c : Int64} (h : add? a b = some c) : c = a + b := by
  rw [← Int64.toInt_inj, toInt_add (h ▸ rfl), add?_eq_some_iff.1 h]

/-- The values that amounts can have. -/
def InRange (n : Int) : Prop := least ≤ n ∧ n ≤ greatest

instance : DecidablePred InRange := fun _ => inferInstanceAs (Decidable (_ ∧ _))

theorem inRange_toInt (a : Int64) : InRange a.toInt := by
  have lower := Int64.le_toInt a
  have upper := Int64.toInt_lt a
  unfold InRange least greatest
  omega

theorem ofInt?_eq_none_iff {n : Int} : ofInt? n = none ↔ ¬InRange n := by
  unfold ofInt? InRange
  split <;> simp [*]

end Teller.Amount
