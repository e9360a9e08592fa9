import Teller.Ledger.Work

/-!
# Carrying out units of work

A ledger opens a transaction, writes in it and ends it. The coordinator runs a unit of work in a
transaction of its own: it commits if the unit succeeds and rolls back if it fails, and repeats
nothing.

    begin ── fails ─────────────────────────────── that failure
      └─ work ── succeeds ── commit ── succeeds ── the value
           │                    └───── fails ───── that failure
           └──── fails ───── rollback ─ succeeds ─ the failure of the work
                                └────── fails ──── both failures
-/

namespace Teller

/-- How a ledger answers, within the effects of `m`. -/
structure Ledger (m : Type → Type) where
  start : m (Except Store.Error Unit)
  createTransfer : Ledger.Movement → m (Except Store.Error Transfer)
  createEntry : Id → Int64 → m (Except Store.Error Entry)
  addBalance : Id → Int64 → m (Except Store.Error Account)
  commit : m (Except Store.Error Unit)
  rollback : m (Except Store.Error Unit)

namespace Ledger

/-- The failure of a unit of work whose rollback ended as told. -/
def failureAfter (e : Store.Error) (rollback : Except Store.Error Unit) : Store.Error :=
  match rollback with
  | .ok () => e
  | .error undo => .rollback e undo

variable {m : Type → Type} [Monad m] {α : Type}

/-- Writes what a unit of work asks for, up to its end. -/
def perform (ledger : Ledger m) : Work α → m (Except Store.Error α)
  | .done result => return result
  | .createTransfer movement next => do
    ledger.perform (next (← ledger.createTransfer movement))
  | .createEntry account amount next => do
    ledger.perform (next (← ledger.createEntry account amount))
  | .addBalance account delta next => do
    ledger.perform (next (← ledger.addBalance account delta))

/-- Carries out a unit of work in a transaction of its own. -/
def execute (ledger : Ledger m) (work : Work α) : m (Except Store.Error α) := do
  match ← ledger.start with
  | .error e => return .error e
  | .ok () =>
    match ← ledger.perform work with
    | .ok x =>
      match ← ledger.commit with
      | .ok () => return .ok x
      | .error e => return .error e
    | .error e => return .error (failureAfter e (← ledger.rollback))

end Ledger

end Teller
