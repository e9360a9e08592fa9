import Teller.Amount
import Teller.Ledger.Coordinator

/-!
# A ledger in memory

The books hold what is committed. A unit of work keeps its writes in a draft, which also remembers
the accounts whose rows it has locked; committing adds the draft to the books at once. Serial
numbers that a draft took are spent even if it is dropped.

Failures can be planted: each makes the next matching call fail, once.
-/

namespace Teller.Ledger

/-- A write of a unit of work, as the log keeps it. -/
inductive Write where
  | transfer
  | entry (account : Id) (amount : Int64)
  | add (account : Id) (delta : Int64)
deriving DecidableEq

/-- A planted failure. -/
inductive Fault where
  | start
  | rollback
  | balance (account : Id)
deriving DecidableEq

/-- What is committed: rows in the order of their commits, and the writes of each commit. -/
structure Books where
  accounts : List Account
  transfers : List Transfer
  entries : List Entry
  log : List (List Write)
  commits : Nat

/-- Books in which nothing has been opened or committed. -/
def Books.empty : Books := ⟨[], [], [], [], 0⟩

/-- The account with this number. -/
def Books.account? (books : Books) (id : Id) : Option Account :=
  books.accounts.find? fun a => a.id = id

/-- The writes of a unit of work that is not committed, and the accounts it has locked. -/
structure Draft where
  held : List Id
  /-- What the draft adds to each balance. -/
  deltas : Id → Int64
  transfers : List Transfer
  entries : List Entry
  log : List Write

/-- A unit of work has written nothing when it begins. -/
def Draft.empty : Draft := ⟨[], fun _ => 0, [], [], []⟩

/-- Sets what the draft adds to one balance. -/
def Draft.setDelta (draft : Draft) (id : Id) (delta : Int64) : Draft :=
  { draft with deltas := fun i => if i = id then delta else draft.deltas i }

/-- The books, and what the ledger knows besides: numbers, rollbacks, planted failures, a clock. -/
structure Memory where
  books : Books
  /-- The last serial numbers given to a transfer and to an entry. -/
  lastTransfer : Nat
  lastEntry : Nat
  rollbacks : Nat
  faults : List Fault
  clock : Timestamp

namespace Memory

/-- A ledger in memory as it is made. -/
def empty (clock : Timestamp) : Memory := ⟨.empty, 0, 0, 0, [], clock⟩

/-- The error of a write that the ledger itself turns down. -/
def refused (detail : String) : Store.Error := .database (.protocol detail)

/-- The error of a sum that no balance can hold. -/
def outOfRange : Store.Error := refused "bigint out of range"

/-- Opens an account under the next serial number. -/
def insertAccount (mem : Memory) (owner currency : String) (balance : Int64) : Memory :=
  let id : Id := mem.books.accounts.length + 1
  { mem with books.accounts := mem.books.accounts ++ [⟨id, owner, currency, balance, mem.clock⟩] }

/-- One more failure to come, behind those that are planted already. -/
def plant (mem : Memory) (fault : Fault) : Memory :=
  { mem with faults := mem.faults ++ [fault] }

/-- The memory without the first planted failure of this kind, if there is one. -/
def trip? (mem : Memory) (fault : Fault) : Option Memory :=
  if fault ∈ mem.faults then some { mem with faults := mem.faults.erase fault } else none

/-- A transfer goes to the draft under the next number, which is taken for good. -/
def createTransfer (mem : Memory) (draft : Draft) (m : Movement) : Memory × Draft × Transfer :=
  let row : Transfer := ⟨mem.lastTransfer + 1, m.source, m.target, m.amount, mem.clock⟩
  ({ mem with lastTransfer := mem.lastTransfer + 1 },
    { draft with transfers := draft.transfers ++ [row], log := draft.log ++ [.transfer] }, row)

/-- An entry goes to the draft under the next number, which is taken for good. -/
def createEntry (mem : Memory) (draft : Draft) (account : Id) (amount : Int64) :
    Memory × Draft × Entry :=
  let row : Entry := ⟨mem.lastEntry + 1, account, amount, mem.clock⟩
  ({ mem with lastEntry := mem.lastEntry + 1 },
    { draft with entries := draft.entries ++ [row], log := draft.log ++ [.entry account amount] },
    row)

/-- Adds to the balance of a locked account: the draft's sum first, then the balance with it. -/
def addBalance (mem : Memory) (draft : Draft) (id : Id) (delta : Int64) :
    Draft × Except Store.Error Account :=
  match mem.books.account? id with
  | none => (draft, .error (.database .rowNotFound))
  | some account =>
    match Amount.add? (draft.deltas id) delta with
    | none => (draft, .error outOfRange)
    | some pending =>
      match Amount.add? account.balance pending with
      | none => (draft, .error outOfRange)
      | some balance =>
        ({ draft.setDelta id pending with log := draft.log ++ [.add id delta] },
          .ok { account with balance := balance })

/-- Adds a draft to the books; no sum is checked again. -/
def commit (mem : Memory) (draft : Draft) : Memory :=
  let books := mem.books
  { mem with
    books := {
      accounts := books.accounts.map fun a => { a with balance := a.balance + draft.deltas a.id }
      transfers := books.transfers ++ draft.transfers
      entries := books.entries ++ draft.entries
      log := books.log ++ [draft.log]
      commits := books.commits + 1 } }

/-- Counts a rollback, unless it is refused. -/
def rollback (mem : Memory) : Memory × Except Store.Error Unit :=
  match mem.trip? .rollback with
  | some mem => (mem, .error (refused "rollback refused"))
  | none => ({ mem with rollbacks := mem.rollbacks + 1 }, .ok ())

end Memory

end Teller.Ledger
