import Mathlib.Algebra.BigOperators.Group.List.Basic
import Mathlib.Algebra.Ring.Int.Defs

/-!
# Sums over rows

A list of rows, each under a key of its own, has one row at most under a given key; so a sum that
counts that key alone comes to what is counted there, or to nothing.
-/

namespace Teller

variable {β κ : Type} [DecidableEq κ] {key : β → κ} {k : κ} {l : List β}

theorem sum_ite_of_not_mem (h : k ∉ l.map key) (n : Int) :
    (l.map fun x => if k = key x then n else 0).sum = 0 := by
  induction l with
  | nil => rfl
  | cons x l ih =>
    rw [List.map_cons, List.mem_cons, not_or] at h
    rw [List.map_cons, List.sum_cons, if_neg h.1, ih h.2, Int.add_zero]

theorem sum_ite_of_mem (nodup : (l.map key).Nodup) (h : k ∈ l.map key) (n : Int) :
    (l.map fun x => if k = key x then n else 0).sum = n := by
  induction l with
  | nil => exact absurd h List.not_mem_nil
  | cons x l ih =>
    rw [List.map_cons, List.nodup_cons] at nodup
    rw [List.map_cons, List.sum_cons]
    by_cases same : k = key x
    · rw [if_pos same, sum_ite_of_not_mem (same ▸ nodup.1), Int.add_zero]
    · rw [if_neg same, Int.zero_add]
      exact ih nodup.2 ((List.mem_cons.1 h).resolve_left same)

end Teller
