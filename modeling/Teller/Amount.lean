/-!
# Amounts

Amounts of money and balances are signed 64-bit integers in minor units. A sum or a product that
leaves their range has no value.
-/

namespace Teller.Amount

def least : Int := -9223372036854775808
def greatest : Int := 9223372036854775807

/-- The amount with this value, if it is in range. -/
def ofInt? (n : Int) : Option Int64 :=
  if least ≤ n ∧ n ≤ greatest then some (Int64.ofInt n) else none

/-- The sum, if it is in range. -/
def add? (a b : Int64) : Option Int64 := ofInt? (a.toInt + b.toInt)

/-- The product, if it is in range. -/
def mul? (a b : Int64) : Option Int64 := ofInt? (a.toInt * b.toInt)

theorem ofInt?_eq_some_iff {n : Int} {a : Int64} : ofInt? n = some a ↔ a.toInt = n := by
  have lower := Int64.le_toInt a
  have upper := Int64.toInt_lt a
  unfold ofInt? least greatest
  split
  · next h =>
    simp only [Option.some.injEq]
    constructor
    · intro e; rw [← e]; exact Int64.toInt_ofInt_of_le (by omega) (by omega)
    · intro e; rw [← e, Int64.ofInt_toInt]
  · next h => simp only [reduceCtorEq, false_iff]; omega

theorem add?_eq_some_iff {a b c : Int64} : add? a b = some c ↔ c.toInt = a.toInt + b.toInt :=
  ofInt?_eq_some_iff

theorem mul?_eq_some_iff {a b c : Int64} : mul? a b = some c ↔ c.toInt = a.toInt * b.toInt :=
  ofInt?_eq_some_iff

end Teller.Amount
