import Teller.Store.Error

/-!
# Errors inside errors

Where the rollback after a failed unit of work fails as well, one error holds two, and each of them
may hold two others. The way that keeps to the units of work ends at the cause by which the whole is
judged; its message mentions every cause, from left to right.

    rollback ─┬─ rollback ─┬─ 23505            judged by 23505
              │            └─ pool closed
              └─ row not found                 mentions 23505, pool closed, row not found
-/

namespace Teller.Store.Error

/-! ### The cause that counts -/

variable {e : Error} {cause : Cause}

/-- The error that is drawn above. -/
example :
    let taken : Error := .database (.rejected (some "23505") "duplicate key")
    let e : Error := .rollback (.rollback taken (.database .poolClosed)) (.database .rowNotFound)
    e.isUniqueViolation ∧ ¬e.isNotFound := by decide

/-! ### The message -/

/-- A text mentions others: they stand in it one after the other, each behind the end of the one
before it. -/
inductive Mentions : String → List String → Prop where
  | nil (text : String) : Mentions text []
  | cons (before first : String) {after : String} {rest : List String} (h : Mentions after rest) :
      Mentions (before ++ first ++ after) (first :: rest)

namespace Mentions

variable {text more : String} {texts others : List String}

theorem behind (h : Mentions text texts) (front : String) : Mentions (front ++ text) texts := by
  cases h with
  | nil => exact .nil _
  | cons before first h =>
    rw [← String.append_assoc, ← String.append_assoc]
    exact .cons (front ++ before) first h

theorem append (h : Mentions text texts) (h' : Mentions more others) :
    Mentions (text ++ more) (texts ++ others) := by
  induction h with
  | nil text => exact h'.behind text
  | cons before first _ ih =>
    rw [String.append_assoc]
    exact .cons before first ih

theorem itself (text : String) : Mentions text [text] := by
  have whole := Mentions.cons "" text (.nil "")
  rwa [String.append_empty, String.empty_append] at whole

end Mentions

/-- The causes at the leaves, from left to right. -/
def leaves : Error → List Cause
  | .database cause => [cause]
  | .rollback work undo => work.leaves ++ undo.leaves

end Teller.Store.Error
