import Teller.Ledger.Memory

/-!
# One unit of work at a time

The ledger in memory for a coordinator that has it to itself: no row is ever taken, so nobody waits.
-/

namespace Teller.Ledger

/-- The draft once the row of an account is locked for it. -/
def Draft.lock (draft : Draft) (id : Id) : Draft :=
  if id ∈ draft.held then draft else { draft with held := id :: draft.held }

/-- A ledger whose state is a memory and the draft of the one open unit of work. -/
def alone : Ledger (StateM (Memory × Draft)) where
  start := fun (mem, draft) =>
    match mem.trip? .start with
    | some mem => (.error (Memory.refused "begin refused"), mem, draft)
    | none => (.ok (), mem, .empty)
  createTransfer movement := fun (mem, draft) =>
    let (mem, draft, row) := mem.createTransfer draft movement
    (.ok row, mem, draft)
  createEntry account amount := fun (mem, draft) =>
    let (mem, draft, row) := mem.createEntry draft account amount
    (.ok row, mem, draft)
  addBalance account delta := fun (mem, draft) =>
    match mem.trip? (.balance account) with
    | some mem =>
      (.error (Memory.refused s!"injected failure on account {account}"), mem, draft)
    | none =>
      if (mem.books.account? account).isNone then (.error (.database .rowNotFound), mem, draft)
      else
        let (draft, result) := mem.addBalance (draft.lock account) account delta
        (result, mem, draft)
  commit := fun (mem, draft) => (.ok (), mem.commit draft, draft)
  rollback := fun (mem, draft) =>
    let (mem, ending) := mem.rollback
    (ending, mem, draft)

/-- Carries out a unit of work that has the memory to itself. -/
def Memory.carryOut {α : Type} (mem : Memory) (work : Work α) : Memory × Except Store.Error α :=
  let (result, mem, _) := (alone.execute work).run (mem, .empty)
  (mem, result)

/-- Carries out units of work one after the other. -/
def Memory.inTurn {α : Type} (mem : Memory) :
    List (Work α) → Memory × List (Except Store.Error α)
  | [] => (mem, [])
  | work :: rest =>
    let (mem, result) := mem.carryOut work
    let (mem, results) := mem.inTurn rest
    (mem, result :: results)

end Teller.Ledger
