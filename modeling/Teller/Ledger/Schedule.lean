import Teller.Ledger.Concurrent

/-!
# One processor, first come first served

Runs processes in the order in which they became ready, each until it has to wait. A row that is
given back goes to the process that has waited longest for it. Every addition to a balance takes
the same time, which passes only while no process can run.

A process that has rested for its addition is ready again; of two that wake at the same moment the
one that fell asleep first goes first.
-/

namespace Teller.Ledger

/-- A process in the queue, and whether it has rested for the addition it is about to make. -/
structure Turn where
  process : Nat
  rested : Bool

/-- A ledger in memory whose processes take turns, with the time that passes meanwhile. -/
structure Schedule (α : Type) where
  state : State α
  /-- Milliseconds passed, and milliseconds that an addition takes. -/
  now : Nat
  delay : Nat
  queue : List Turn
  /-- Processes that wait for a row, in the order in which they came. -/
  waiting : List Nat
  /-- Processes that rest, each with its time to wake, in the order in which they fell asleep. -/
  resting : List (Nat × Nat)

namespace Schedule

variable {α : Type}

/-- All processes are in the queue, in their order. -/
def ofState (state : State α) (delay : Nat) : Schedule α :=
  let queue := (List.range state.processes.length).map fun i => ⟨i, false⟩
  ⟨state, 0, delay, queue, [], []⟩

/-- Hands a row that was given back to the first process that waits for it. -/
def handOver (s : Schedule α) (id : Id) : Schedule α :=
  let waits (i : Nat) : Bool := (s.state.processes[i]?.bind Process.awaited?) = some id
  match s.waiting.find? waits with
  | none => s
  | some i =>
    match s.state.advance? i with
    | none => s
    | some state =>
      { s with state := state, queue := s.queue ++ [⟨i, false⟩], waiting := s.waiting.erase i }

/-- Lets the first process of the queue go one step, or puts it where it waits. -/
def turn (s : Schedule α) (t : Turn) (rest : List Turn) : Schedule α :=
  let i := t.process
  match s.state.processes[i]? with
  | some (.updating ..) =>
    if s.delay ≠ 0 ∧ !t.rested then
      { s with queue := rest, resting := s.resting ++ [(s.now + s.delay, i)] }
    else
      match s.state.advance? i with
      | some state => { s with state := state, queue := ⟨i, false⟩ :: rest }
      | none => { s with queue := rest }
  | some p =>
    match s.state.advance? i with
    | none =>
      if p.isOver then { s with queue := rest }
      else { s with queue := rest, waiting := s.waiting ++ [i] }
    | some state =>
      if (state.processes[i]?.map Process.isOver).getD true then
        let given := p.held.mergeSort fun a b => a ≤ b
        given.foldl handOver { s with state := state, queue := rest }
      else { s with state := state, queue := t :: rest }
  | none => { s with queue := rest }

/-- The time at which the next process wakes. -/
def nextWake? (s : Schedule α) : Option Nat := (s.resting.map (·.1)).min?

/-- Lets time pass until `time` and wakes whoever is due. -/
def wake (s : Schedule α) (time : Nat) : Schedule α :=
  let (due, later) := s.resting.partition fun r => r.1 ≤ time
  { s with now := time, queue := due.map fun r => ⟨r.2, true⟩, resting := later }

/-- Cuts off every process that has not ended. -/
def cutAll (s : Schedule α) : State α :=
  (List.range s.state.processes.length).foldl (fun st i => (st.cut? i).getD st) s.state

/-- Runs at most `fuel` turns. What has not ended by the deadline, if there is one, is cut off. -/
def run (deadline : Option Nat) : Nat → Schedule α → State α
  | 0, s => s.cutAll
  | fuel + 1, s =>
    match s.queue with
    | t :: rest => run deadline fuel (s.turn t rest)
    | [] =>
      match s.nextWake? with
      | none => s.cutAll
      | some time => if deadline.any (· < time) then s.cutAll else run deadline fuel (s.wake time)

end Schedule

/-- The most turns that a write can take: asking, waiting for the row, getting it, resting, waking
and adding. -/
def turnsPerWrite : Nat := 6

/-- The most turns for units of work of at most `writes` writes each, started and ended. -/
def turnsFor (units writes : Nat) : Nat := units * (writes * turnsPerWrite + 4) + 1

/-- Carries out units of work side by side. A unit that is cut off has no result. -/
def Memory.execute {α : Type} (mem : Memory) (delay : Nat) (deadline : Option Nat) (turns : Nat)
    (works : List (Work α)) : Memory × List (Option (Except Store.Error α)) :=
  let s : State α := ⟨mem, works.map .ready⟩
  let ending := Schedule.run deadline turns (.ofState s delay)
  (ending.memory, ending.processes.map fun
    | .finished result => some result
    | _ => none)

/-- Carries out transfers side by side. -/
def Memory.transfers (mem : Memory) (delay : Nat) (deadline : Option Nat)
    (movements : List Movement) : Memory × List (Option (Except Store.Error Receipt)) :=
  mem.execute delay deadline (turnsFor movements.length 5) (movements.map Work.transfer)

/-- Carries out one unit of work that takes steps. -/
def Memory.steps (mem : Memory) (delay : Nat) (steps : List Step) :
    Memory × Option (Except Store.Error (List Written)) :=
  let (mem, results) := mem.execute delay none (turnsFor 1 steps.length) [Work.steps steps]
  (mem, results.head?.join)

end Teller.Ledger
