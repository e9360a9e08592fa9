import Teller.Ledger.Memory

/-!
# Units of work side by side

A process carries out one unit of work on a ledger in memory, a step at a time; steps of different
processes may come in any order. The first addition to a balance locks the account's row, and the
lock is kept until the process has ended.

    ready ── active ── finished
              │   ↑
           locking → updating          waiting for a row, then adding to its balance
                │         │
                └─ dropped┘            cut off while it waits or adds

A process that has ended has no draft any more, so it holds no row.
-/

namespace Teller.Ledger

/-- How far a unit of work has come. -/
inductive Process (α : Type) where
  | ready (work : Work α)
  | active (draft : Draft) (work : Work α)
  | locking (draft : Draft) (account : Id) (delta : Int64)
      (next : Except Store.Error Account → Work α)
  | updating (draft : Draft) (account : Id) (delta : Int64)
      (next : Except Store.Error Account → Work α)
  | finished (result : Except Store.Error α)
  | dropped

namespace Process

variable {α : Type}

/-- What the process has written and not yet committed. -/
def draft? : Process α → Option Draft
  | .active draft _ | .locking draft _ _ _ | .updating draft _ _ _ => some draft
  | .ready _ | .finished _ | .dropped => none

/-- The accounts whose rows a process has locked. -/
def held (p : Process α) : List Id := (p.draft?.map Draft.held).getD []

/-- The account whose row a process waits for. -/
def awaited? : Process α → Option Id
  | .locking _ account _ _ => some account
  | _ => none

/-- Whether the process makes no step any more. -/
def isOver : Process α → Bool
  | .finished _ | .dropped => true
  | _ => false

/-- The next step of a process, where `isFree` says which rows nobody has locked. There is none if
it waits for a row that is taken, or has ended. -/
def advance? (isFree : Id → Bool) (mem : Memory) : Process α → Option (Memory × Process α)
  | .ready work =>
    match mem.trip? .start with
    | some mem => some (mem, .finished (.error (Memory.refused "begin refused")))
    | none => some (mem, .active .empty work)
  | .active draft (.done (.ok x)) => some (mem.commit draft, .finished (.ok x))
  | .active _ (.done (.error e)) =>
    let (mem, ending) := mem.rollback
    some (mem, .finished (.error (failureAfter e ending)))
  | .active draft (.createTransfer movement next) =>
    let (mem, draft, row) := mem.createTransfer draft movement
    some (mem, .active draft (next (.ok row)))
  | .active draft (.createEntry account amount next) =>
    let (mem, draft, row) := mem.createEntry draft account amount
    some (mem, .active draft (next (.ok row)))
  | .active draft (.addBalance account delta next) =>
    -- A planted failure comes first, also before the account is looked for.
    match mem.trip? (.balance account) with
    | some mem =>
      some (mem, .active draft
        (next (.error (Memory.refused s!"injected failure on account {account}"))))
    | none =>
      if (mem.books.account? account).isNone then
        some (mem, .active draft (next (.error (.database .rowNotFound))))
      else if account ∈ draft.held then some (mem, .updating draft account delta next)
      else some (mem, .locking draft account delta next)
  | .locking draft account delta next =>
    if isFree account then
      some (mem, .updating { draft with held := account :: draft.held } account delta next)
    else none
  | .updating draft account delta next =>
    let (draft, result) := mem.addBalance draft account delta
    some (mem, .active draft (next result))
  | .finished _ => none
  | .dropped => none

/-- A process can be cut off while it waits for a row or adds to a balance. -/
def cut? : Process α → Option (Process α)
  | .locking .. | .updating .. => some .dropped
  | _ => none

end Process

/-- A ledger in memory and the processes that work on it. -/
structure State (α : Type) where
  memory : Memory
  processes : List (Process α)

/-- What can happen next. -/
inductive Event (α : Type) where
  | spawn (work : Work α)
  | advance (i : Nat)
  | cut (i : Nat)
  | insertAccount (owner currency : String) (balance : Int64)
  | plant (fault : Fault)
  | setClock (clock : Timestamp)

namespace State

variable {α : Type}

/-- Whether no process has locked the row of an account. -/
def isFree (s : State α) (id : Id) : Bool := s.processes.all fun p => !p.held.contains id

/-- The next step of one process. -/
def advance? (s : State α) (i : Nat) : Option (State α) := do
  let (memory, p) ← (← s.processes[i]?).advance? s.isFree s.memory
  return ⟨memory, s.processes.set i p⟩

/-- Cuts off a process of the state, if it can be cut. -/
def cut? (s : State α) (i : Nat) : Option (State α) := do
  let p ← (← s.processes[i]?).cut?
  return { s with processes := s.processes.set i p }

/-- The state after an event, if the event can happen. -/
def step? (s : State α) : Event α → Option (State α)
  | .spawn work => some { s with processes := s.processes ++ [.ready work] }
  | .advance i => s.advance? i
  | .cut i => s.cut? i
  | .insertAccount owner currency balance =>
    some { s with memory := s.memory.insertAccount owner currency balance }
  | .plant fault => some { s with memory := s.memory.plant fault }
  | .setClock clock => some { s with memory.clock := clock }

/-- The state after a run of events. -/
def run? (s : State α) : List (Event α) → Option (State α)
  | [] => some s
  | e :: rest => do (← s.step? e).run? rest

end State

end Teller.Ledger
