import Teller.Store.Error
import Teller.Store.Row

/-!
# Units of work

A unit of work asks the ledger for one write after the other. What it asks next may depend on the
answers so far, failures included; in the end it succeeds with a value or fails.

A transfer records itself, then the entry of its source, then that of its target. The balances come
last, that of the lower account first: two transfers that share accounts reach for their balances in
the same order, whatever their directions. A transfer from an account to itself adds nothing to its
balance, once.
-/

namespace Teller.Ledger

/-- Money to be moved. -/
structure Movement where
  source : Id
  target : Id
  amount : Int64
deriving DecidableEq

/-- A unit of work: writes, each chosen by the answers before it, and a result. -/
inductive Work (α : Type) where
  | done (result : Except Store.Error α)
  | createTransfer (movement : Movement) (next : Except Store.Error Transfer → Work α)
  | createEntry (account : Id) (amount : Int64) (next : Except Store.Error Entry → Work α)
  | addBalance (account : Id) (delta : Int64) (next : Except Store.Error Account → Work α)

namespace Work

variable {α β : Type}

/-- Goes on with the value of a unit of work, unless it fails. -/
def andThen : Work α → (α → Work β) → Work β
  | .done (.ok x), f => f x
  | .done (.error e), _ => .done (.error e)
  | .createTransfer m next, f => .createTransfer m fun r => (next r).andThen f
  | .createEntry a n next, f => .createEntry a n fun r => (next r).andThen f
  | .addBalance a n next, f => .addBalance a n fun r => (next r).andThen f

instance : Monad Work where
  pure x := .done (.ok x)
  bind := andThen

/-- Fails with an error, having written nothing. -/
def fail (e : Store.Error) : Work α := .done (.error e)

def recordTransfer (m : Movement) : Work Transfer := .createTransfer m .done

def recordEntry (account : Id) (amount : Int64) : Work Entry := .createEntry account amount .done

/-- Adds `delta` to a balance and answers with the account as it is then. -/
def add (account : Id) (delta : Int64) : Work Account := .addBalance account delta .done

end Work

/-- What a committed transfer wrote. -/
structure Receipt where
  transfer : Transfer
  source : Account
  target : Account
  debit : Entry
  credit : Entry
deriving DecidableEq

/-- Both balances after a movement, the source first. -/
def Work.moveBalances (m : Movement) : Work (Account × Account) :=
  if m.source = m.target then do
    let account ← add m.source 0
    return (account, account)
  else if m.source < m.target then do
    let source ← add m.source (-m.amount)
    let target ← add m.target m.amount
    return (source, target)
  else do
    let target ← add m.target m.amount
    let source ← add m.source (-m.amount)
    return (source, target)

/-- Moves money as one unit of work. -/
def Work.transfer (m : Movement) : Work Receipt := do
  let transfer ← recordTransfer m
  let debit ← recordEntry m.source (-m.amount)
  let credit ← recordEntry m.target m.amount
  let (source, target) ← moveBalances m
  return ⟨transfer, source, target, debit, credit⟩

/-! ## Lists of steps -/

/-- A single thing that a unit of work does. -/
inductive Step where
  | add (account : Id) (delta : Int64)
  | entry (account : Id) (amount : Int64)
  | transfer (movement : Movement)
  | fail (e : Store.Error)

/-- What a step answers. -/
inductive Written where
  | account (row : Account)
  | entry (row : Entry)
  | transfer (row : Transfer)
deriving DecidableEq

/-- The step as a unit of work of its own. -/
def Step.work : Step → Work Written
  | .add account delta => do return .account (← Work.add account delta)
  | .entry account amount => do return .entry (← Work.recordEntry account amount)
  | .transfer m => do return .transfer (← Work.recordTransfer m)
  | .fail e => Work.fail e

/-- Takes the steps in order, up to the first that fails. -/
def Work.steps : List Step → Work (List Written)
  | [] => return []
  | s :: rest => do
    let row ← s.work
    let rows ← steps rest
    return row :: rows

end Teller.Ledger
