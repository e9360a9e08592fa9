import Teller.Ledger.Coordinator

/-!
# Units of work on any ledger

What a ledger makes of a unit of work follows the unit of work: its parts are written one after the
other, and a part that fails is the last one.
-/

namespace Teller.Ledger

variable {m : Type → Type} [Monad m] [LawfulMonad m] {α β : Type}

/-- Units of work that follow each other are written one after the other, up to the first that
fails. -/
theorem perform_bind (ledger : Ledger m) (x : Work α)
    (f : α → Work β) :
    ledger.perform (x >>= f) = ledger.perform x >>= fun
      | .ok a => ledger.perform (f a)
      | .error e => pure (.error e) := by
  have step {γ : Type} (op : m (Except Store.Error γ)) (next : Except Store.Error γ → Work α)
      (ih : ∀ r, ledger.perform (next r >>= f) = ledger.perform (next r) >>= fun
        | .ok a => ledger.perform (f a)
        | .error e => pure (.error e)) :
      (op >>= fun r => ledger.perform (next r >>= f)) =
        (op >>= fun r => ledger.perform (next r)) >>= fun
          | .ok a => ledger.perform (f a)
          | .error e => pure (.error e) := by
    rw [bind_assoc]
    exact bind_congr ih
  induction x with
  | done result =>
    cases result with
    | ok a => simp only [perform, pure_bind]; rfl
    | error e => simp only [perform, pure_bind]; rfl
  | createTransfer movement next ih => exact step _ next ih
  | createEntry id n next ih => exact step _ next ih
  | addBalance id n next ih => exact step _ next ih

theorem perform_recordTransfer (ledger : Ledger m) (movement : Movement) :
    ledger.perform (Work.recordTransfer movement) = ledger.createTransfer movement :=
  bind_pure _

theorem perform_recordEntry (ledger : Ledger m) (account : Id) (amount : Int64) :
    ledger.perform (Work.recordEntry account amount) = ledger.createEntry account amount :=
  bind_pure _

theorem perform_add (ledger : Ledger m) (account : Id) (delta : Int64) :
    ledger.perform (Work.add account delta) = ledger.addBalance account delta :=
  bind_pure _

end Teller.Ledger
