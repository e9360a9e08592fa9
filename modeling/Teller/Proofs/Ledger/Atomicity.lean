import Mathlib.Algebra.Ring.Int.Defs
import Teller.Proofs.Ledger.Commits
import Teller.Proofs.Ledger.Locks

/-!
# All or nothing

A unit of work that does not succeed has done nothing. Other units may move between any two of its
own steps, so what it did is told step by step: a step of a unit that ends in failure, or is cut
off, changes neither the books nor another process, and when the unit has ended its rows are free.
-/

namespace Teller.Ledger

variable {α : Type}

/-! ### What a step short of a commit may change -/

/-- The serial numbers have grown, or a planted failure has struck, or a rollback has been counted.
Nothing else is changed. -/
structure Memory.Spares (before after : Memory) : Prop where
  books : after.books = before.books
  clock : after.clock = before.clock
  transfers : before.lastTransfer ≤ after.lastTransfer
  entries : before.lastEntry ≤ after.lastEntry
  faults : after.faults = before.faults ∨
    ∃ f ∈ before.faults, after.faults = before.faults.erase f

namespace Memory

theorem Spares.refl (mem : Memory) : mem.Spares mem where
  books := rfl
  clock := rfl
  transfers := Nat.le_refl _
  entries := Nat.le_refl _
  faults := .inl rfl

/-- A planted failure that strikes is gone, and nothing else is. -/
theorem trip?_eq_some {mem mem' : Memory} {f : Fault} (h : mem.trip? f = some mem') :
    f ∈ mem.faults ∧ mem' = { mem with faults := mem.faults.erase f } := by
  unfold trip? at h
  split at h
  · next planted =>
    cases h
    exact ⟨planted, rfl⟩
  · cases h

theorem spares_of_trip? {mem mem' : Memory} {f : Fault} (h : mem.trip? f = some mem') :
    mem.Spares mem' := by
  obtain ⟨planted, rfl⟩ := trip?_eq_some h
  exact { Spares.refl mem with faults := .inr ⟨f, planted, rfl⟩ }

theorem rollbacks_of_trip? {mem mem' : Memory} {f : Fault} (h : mem.trip? f = some mem') :
    mem'.rollbacks = mem.rollbacks := by
  obtain ⟨-, rfl⟩ := trip?_eq_some h
  rfl

theorem spares_rollback (mem : Memory) : mem.Spares mem.rollback.1 := by
  unfold rollback
  split
  · next tripped => exact spares_of_trip? tripped
  · exact { Spares.refl mem with }

/-- A rollback is counted unless it is refused. -/
theorem rollbacks_rollback (mem : Memory) :
    mem.rollback.1.rollbacks =
      if .rollback ∈ mem.faults then mem.rollbacks else mem.rollbacks + 1 := by
  unfold rollback
  split
  · next tripped =>
    rw [if_pos (trip?_eq_some tripped).1]
    exact rollbacks_of_trip? tripped
  · next untripped =>
    have unplanted : Fault.rollback ∉ mem.faults := by
      intro planted
      rw [trip?, if_pos planted] at untripped
      cases untripped
    rw [if_neg unplanted]

end Memory

namespace Process

variable {isFree : Id → Bool} {mem mem' : Memory} {p p' : Process α}

/-- Only a commit does not spare the memory. -/
theorem Move.spares (move : p.Move isFree mem mem' p') (h : ∀ x, p' ≠ .finished (.ok x)) :
    mem.Spares mem' := by
  cases move with
  | refused tripped => exact Memory.spares_of_trip? tripped
  | failed tripped => exact Memory.spares_of_trip? tripped
  | committed => exact absurd rfl (h _)
  | rolledBack => exact Memory.spares_rollback mem
  | transfer => exact { Memory.Spares.refl mem with transfers := Nat.le_succ _ }
  | entry => exact { Memory.Spares.refl mem with entries := Nat.le_succ _ }
  | started | absent | again | asked | locked | updated => exact .refl mem

/-- The unit of work has failed, and what is left is to roll it back. -/
def HasFailed (p : Process α) : Prop := ∃ d e, p = .active d (.done (.error e))

/-- Only the rollback of a unit that has failed is counted, unless it is refused. -/
theorem Move.rollbacks (move : p.Move isFree mem mem' p') :
    (p.HasFailed ∧ .rollback ∉ mem.faults ∧ mem'.rollbacks = mem.rollbacks + 1) ∨
      (¬(p.HasFailed ∧ .rollback ∉ mem.faults) ∧ mem'.rollbacks = mem.rollbacks) := by
  have goesOn {q : Process α} (h : ∀ d e, q ≠ .active d (.done (.error e))) :
      ¬(q.HasFailed ∧ .rollback ∉ mem.faults) := by
    rintro ⟨⟨d, e, failed⟩, -⟩
    exact h d e failed
  cases move with
  | @rolledBack d e =>
    rw [Memory.rollbacks_rollback]
    split
    · next planted => exact .inr ⟨fun h => h.2 planted, rfl⟩
    · next unplanted => exact .inl ⟨⟨d, e, rfl⟩, unplanted, rfl⟩
  | refused tripped => exact .inr ⟨goesOn nofun, Memory.rollbacks_of_trip? tripped⟩
  | failed tripped => exact .inr ⟨goesOn nofun, Memory.rollbacks_of_trip? tripped⟩
  | started | committed | transfer | entry | absent | again | asked | locked | updated =>
    exact .inr ⟨goesOn nofun, rfl⟩

/-- A unit of work that has failed ends with its rollback. -/
theorem Move.over_of_hasFailed (move : p.Move isFree mem mem' p') (failed : p.HasFailed) :
    p'.isOver = true := by
  obtain ⟨d, e, rfl⟩ := failed
  cases move
  rfl

theorem held_of_isOver (ceased : p.isOver = true) : p.held = [] := by
  cases p with
  | finished | dropped => rfl
  | ready | active | locking | updating => cases ceased

end Process

/-! ### The steps of one process -/

/-- A ledger before an event and after it. -/
structure Transition (α : Type) where
  before : State α
  after : State α

/-- Whether an event is a step of process `i`, or cuts it off. -/
def Event.isStepOf (i : Nat) : Event α → Bool
  | .advance j | .cut j => j = i
  | _ => false

namespace State

/-- The steps of process `i` in a run. -/
def steps (s : State α) (i : Nat) : List (Event α) → List (Transition α)
  | [] => []
  | e :: rest =>
    match s.step? e with
    | none => []
    | some s' => if e.isStepOf i then ⟨s, s'⟩ :: s'.steps i rest else s'.steps i rest

variable {s s' : State α} {e : Event α} {es : List (Event α)} {i : Nat}

theorem steps_cons (h : s.step? e = some s') :
    s.steps i (e :: es) = if e.isStepOf i then ⟨s, s'⟩ :: s'.steps i es else s'.steps i es := by
  rw [steps, h]

/-- A step of a process is a move of it, or cuts it off; other processes stay as they are. -/
inductive StepOf (i : Nat) (s : State α) : State α → Prop where
  | moved {p mem' p'} (before : s.processes[i]? = some p)
      (move : p.Move s.isFree s.memory mem' p') : StepOf i s ⟨mem', s.processes.set i p'⟩
  | cut {p} (before : s.processes[i]? = some p) (live : p.isOver = false)
      (unfinished : ¬p.HasFailed) : StepOf i s { s with processes := s.processes.set i .dropped }

theorem stepOf_of_isStepOf (own : e.isStepOf i) (h : s.step? e = some s') : StepOf i s s' := by
  cases e with
  | advance j =>
    obtain rfl : j = i := of_decide_eq_true own
    obtain ⟨p, mem', p', before, move, rfl⟩ := advance?_eq_some h
    exact .moved before move
  | cut j =>
    obtain rfl : j = i := of_decide_eq_true own
    simp only [step?, cut?, Option.bind_eq_bind, Option.bind_eq_some_iff] at h
    obtain ⟨p, before, p', hcut, hs⟩ := h
    cases hs
    rw [Process.cut?_eq_some hcut]
    have live : p.isOver = false := by cases p <;> cases hcut <;> rfl
    have unfinished : ¬p.HasFailed := by
      rintro ⟨d, e, rfl⟩
      cases hcut
    exact .cut before live unfinished
  | spawn | insertAccount | plant | setClock => cases own

/-- No other event touches a process that is there. -/
theorem process_of_not_isStepOf (other : e.isStepOf i = false) {p : Process α}
    (before : s.processes[i]? = some p) (h : s.step? e = some s') : s'.processes[i]? = some p := by
  cases e with
  | spawn work =>
    cases h
    obtain ⟨lt, -⟩ := List.getElem?_eq_some_iff.1 before
    rwa [List.getElem?_append_left lt]
  | advance j =>
    obtain ⟨q, mem', q', -, -, rfl⟩ := advance?_eq_some h
    rwa [List.getElem?_set_ne (of_decide_eq_false other)]
  | cut j =>
    obtain ⟨q, -, -, rfl⟩ := cut?_eq_some h
    rwa [List.getElem?_set_ne (of_decide_eq_false other)]
  | insertAccount => cases h; exact before
  | plant => cases h; exact before
  | setClock => cases h; exact before

/-- Between the steps of a run: it comes to each of them and goes on from there to its end. -/
theorem mem_steps {t : Transition α} (ht : t ∈ s.steps i es) (h : s.run? es = some s') :
    ∃ front rest, s.run? front = some t.before ∧ StepOf i t.before t.after ∧
      t.after.run? rest = some s' := by
  induction es generalizing s with
  | nil => cases ht
  | cons e es ih =>
    obtain ⟨mid, hmid, hrest⟩ := Option.bind_eq_some_iff.1 h
    have later (ht : t ∈ mid.steps i es) : ∃ front rest, s.run? front = some t.before ∧
        StepOf i t.before t.after ∧ t.after.run? rest = some s' := by
      obtain ⟨front, rest, hfront, step, hend⟩ := ih ht hrest
      exact ⟨e :: front, rest, Option.bind_eq_some_iff.2 ⟨mid, hmid, hfront⟩, step, hend⟩
    rw [steps_cons hmid] at ht
    split at ht
    · next own =>
      rcases List.mem_cons.1 ht with rfl | ht
      · exact ⟨[], es, rfl, stepOf_of_isStepOf own hmid, hrest⟩
      · exact later ht
    · exact later ht

/-- A process that has ended takes no more steps. -/
theorem steps_eq_nil {p : Process α} (before : s.processes[i]? = some p)
    (ceased : p.isOver = true) : s.steps i es = [] := by
  induction es generalizing s with
  | nil => rfl
  | cons e es ih =>
    cases h : s.step? e with
    | none => rw [steps, h]
    | some mid =>
      rw [steps_cons h]
      split
      · next own =>
        cases stepOf_of_isStepOf own h with
        | moved before' move =>
          rw [before, Option.some.injEq] at before'
          subst before'
          rw [move.not_over] at ceased
          cases ceased
        | cut before' live =>
          rw [before, Option.some.injEq] at before'
          subst before'
          rw [live] at ceased
          cases ceased
      · next other => exact ih (process_of_not_isStepOf (by simpa using other) before h)

end State

/-! ### Rollbacks -/

/-- How many rollbacks a step has counted. -/
def Transition.counted (t : Transition α) : Int :=
  t.after.memory.rollbacks - t.before.memory.rollbacks

/-- The step rolls back the work of process `i`, which has failed, and is not refused. -/
def Transition.RollsBack (i : Nat) (t : Transition α) : Prop :=
  (∃ p, t.before.processes[i]? = some p ∧ p.HasFailed) ∧ .rollback ∉ t.before.memory.faults

namespace State

variable {s s' : State α} {es : List (Event α)} {i : Nat}

/-- A step counts the rollback that it makes, and no other one. -/
theorem StepOf.counted (step : StepOf i s s') :
    ((Transition.mk s s').RollsBack i ∧ (Transition.mk s s').counted = 1 ∧
        ∃ p', s'.processes[i]? = some p' ∧ p'.isOver = true) ∨
      (¬(Transition.mk s s').RollsBack i ∧ (Transition.mk s s').counted = 0) := by
  cases step with
  | @moved p mem' p' before move =>
    rcases move.rollbacks with ⟨failed, allowed, once⟩ | ⟨not, none⟩
    · have one : (mem'.rollbacks : Int) - s.memory.rollbacks = 1 := by omega
      exact .inl ⟨⟨⟨p, before, failed⟩, allowed⟩, one, p', getElem?_set_of_some before p',
        move.over_of_hasFailed failed⟩
    · have zero : (mem'.rollbacks : Int) - s.memory.rollbacks = 0 := by omega
      refine .inr ⟨?_, zero⟩
      rintro ⟨⟨q, before', failed⟩, allowed⟩
      rw [before, Option.some.injEq] at before'
      exact not ⟨before' ▸ failed, allowed⟩
  | @cut p before live unfinished =>
    refine .inr ⟨?_, Int.sub_self _⟩
    rintro ⟨⟨q, before', failed⟩, -⟩
    rw [before, Option.some.injEq] at before'
    exact unfinished (before' ▸ failed)

/-- All steps of a process together count one rollback if one of them makes it, and else none. -/
theorem counted_steps (s : State α) (i : Nat) (es : List (Event α)) :
    ((∃ t ∈ s.steps i es, t.RollsBack i) ∧ ((s.steps i es).map Transition.counted).sum = 1) ∨
      ((¬∃ t ∈ s.steps i es, t.RollsBack i) ∧
        ((s.steps i es).map Transition.counted).sum = 0) := by
  induction es generalizing s with
  | nil =>
    refine .inr ⟨?_, rfl⟩
    rintro ⟨t, ht, -⟩
    cases ht
  | cons e es ih =>
    cases h : s.step? e with
    | none =>
      rw [steps, h]
      refine .inr ⟨?_, rfl⟩
      rintro ⟨t, ht, -⟩
      cases ht
    | some mid =>
      rw [steps_cons h]
      split
      · next own =>
        rw [List.map_cons, List.sum_cons]
        rcases (stepOf_of_isStepOf own h).counted with ⟨makes, one, p', after, ceased⟩ | ⟨not, none⟩
        · -- The process ends with its rollback, so nothing follows.
          rw [steps_eq_nil after ceased, one]
          exact .inl ⟨⟨_, List.mem_cons_self, makes⟩, rfl⟩
        · rw [none, Int.zero_add]
          rcases ih mid with ⟨⟨t, ht, makes⟩, sum⟩ | ⟨never, sum⟩
          · exact .inl ⟨⟨t, List.mem_cons_of_mem _ ht, makes⟩, sum⟩
          · refine .inr ⟨?_, sum⟩
            rintro ⟨t, ht, makes⟩
            rcases List.mem_cons.1 ht with rfl | ht
            · exact not makes
            · exact never ⟨t, ht, makes⟩
      · exact ih mid

/-! ### Units of work that do not succeed -/

/-- A process that has ended has given its rows back, and nobody else has them. -/
theorem Disciplined.free_of_isOver (hs : s.Disciplined) (step : StepOf i s s') {p p' : Process α}
    (before : s.processes[i]? = some p) (after : s'.processes[i]? = some p')
    (ceased : p'.isOver = true) : ∀ id ∈ p.held, s'.isFree id = true := by
  have others : ∀ j, j ≠ i → s'.processes[j]? = s.processes[j]? := by
    intro j ne
    cases step with
    | moved | cut => exact List.getElem?_set_ne (Ne.symm ne)
  intro id hid
  rw [isFree, List.all_eq_true]
  intro q hq
  obtain ⟨j, hj⟩ := List.mem_iff_getElem?.1 hq
  have unheld : id ∉ q.held := by
    by_cases ne : j = i
    · subst ne
      rw [after, Option.some.injEq] at hj
      rw [← hj, Process.held_of_isOver ceased]
      exact List.not_mem_nil
    · rw [others j ne] at hj
      exact hs.apart i j p q (Ne.symm ne) before hj id hid
  simpa using unheld

/-- Where the process has not succeeded in the end, its step spares the memory and all others. -/
theorem StepOf.spares (step : StepOf i s s') (failed : ∀ x, ¬s'.Succeeded i x) :
    s.memory.Spares s'.memory ∧ ∀ j, j ≠ i → s'.processes[j]? = s.processes[j]? := by
  cases step with
  | @moved p mem' p' before move =>
    refine ⟨move.spares fun x hx => failed x ?_, fun j ne => List.getElem?_set_ne (Ne.symm ne)⟩
    rw [Succeeded, ← hx]
    exact getElem?_set_of_some before p'
  | cut => exact ⟨.refl s.memory, fun j ne => List.getElem?_set_ne (Ne.symm ne)⟩

end State

/-- Whatever has happened to a ledger, and whatever other units of work do meanwhile: if a unit of
work has ended without success, then no step of it has changed the books or another process; when it
ended, all rows that it had locked were free, and it has none; and its steps have counted one
rollback if its work had failed and the rollback was not refused, and else none. -/
theorem failure_leaves_no_trace (clock : Timestamp) (past es : List (Event α)) (work : Work α)
    (s₀ s : State α) (reached : State.run? ⟨.empty clock, []⟩ past = some s₀)
    (run : s₀.run? (.spawn work :: es) = some s) (p : Process α)
    (ended : s.processes[s₀.processes.length]? = some p) (ceased : p.isOver = true)
    (failed : ∀ x, p ≠ .finished (.ok x)) :
    let unit := s₀.processes.length
    let steps := s₀.steps unit (.spawn work :: es)
    (∀ t ∈ steps, t.before.memory.Spares t.after.memory ∧
      ∀ j, j ≠ unit → t.after.processes[j]? = t.before.processes[j]?) ∧
    (p.held = [] ∧ ∀ t ∈ steps, ∀ q q', t.before.processes[unit]? = some q →
      t.after.processes[unit]? = some q' → q'.isOver = true →
      ∀ id ∈ q.held, t.after.isFree id = true) ∧
    (((∃ t ∈ steps, t.RollsBack unit) ∧ (steps.map Transition.counted).sum = 1) ∨
      ((¬∃ t ∈ steps, t.RollsBack unit) ∧ (steps.map Transition.counted).sum = 0)) := by
  intro unit steps
  have keeps : ∀ {es : List (Event α)} {s s' : State α}, s.Disciplined → s.run? es = some s' →
      s'.Disciplined := fun hs h =>
    State.run?_keeps State.Disciplined (fun _ => True) (fun _ _ _ _ hs h => hs.step h)
      (fun _ _ => trivial) hs h
  have disciplined : s₀.Disciplined := keeps (.of_ready fun p hp => by cases hp) reached
  have unsuccessful : ∀ t : Transition α, (∃ rest, t.after.run? rest = some s) →
      ∀ x, ¬t.after.Succeeded unit x := by
    rintro t ⟨rest, hrest⟩ x hx
    have final : s.processes[unit]? = some (.finished (.ok x)) := hx.run hrest
    rw [ended, Option.some.injEq] at final
    exact failed x final
  refine ⟨fun t ht => ?_, ⟨Process.held_of_isOver ceased, fun t ht q q' before after ceased => ?_⟩,
    State.counted_steps s₀ unit _⟩
  · obtain ⟨front, rest, -, step, hrest⟩ := State.mem_steps ht run
    exact step.spares (unsuccessful t ⟨rest, hrest⟩)
  · obtain ⟨front, rest, hfront, step, -⟩ := State.mem_steps ht run
    exact (keeps disciplined hfront).free_of_isOver step before after ceased

/-- A unit of work that adds to an account and then fails. -/
def spoiled : Work (Receipt ⊕ List Written) :=
  Sum.inr <$> Work.steps [.add 2 5, .fail (Memory.refused "boom")]

/-- Two accounts are opened, and a transfer between them is called. -/
def called : List (Event (Receipt ⊕ List Written)) :=
  [.insertAccount "ada" "USD" 100, .insertAccount "bob" "USD" 50,
    .spawn (Sum.inl <$> Work.transfer ⟨1, 2, 30⟩)]

/-- The transfer waits for the row that the other unit has locked, until that one has failed. -/
def outlasted : List (Event (Receipt ⊕ List Written)) :=
  .spawn spoiled :: List.replicate 4 (.advance 1) ++ List.replicate 8 (.advance 0) ++
    .advance 1 :: List.replicate 3 (.advance 0)

/-- Whether a process has ended in failure. -/
def Process.isFailure : Process α → Bool
  | .finished (.error _) => true
  | _ => false

theorem Process.of_isFailure {p : Process α} (fails : p.isFailure) :
    p.isOver = true ∧ ∀ x, p ≠ .finished (.ok x) := by
  cases p with
  | finished result =>
    cases result with
    | error e => exact ⟨rfl, fun x h => by cases h⟩
    | ok x => cases fails
  | ready | active | locking | updating | dropped => cases fails

theorem spoiled_leaves_no_trace :
    ∃ s₀ s p, State.run? ⟨.empty .epoch, []⟩ called = some s₀ ∧ s₀.run? outlasted = some s ∧
      s.processes[1]? = some p ∧ p.held = [] ∧
      (∀ t ∈ s₀.steps 1 outlasted, t.after.memory.books = t.before.memory.books) ∧
      ((s₀.steps 1 outlasted).map Transition.counted).sum = 1 := by
  have goes : ((State.run? ⟨.empty .epoch, []⟩ called).any fun s₀ =>
      s₀.processes.length = 1 && ((s₀.steps 1 outlasted).map Transition.counted).sum ≠ 0 &&
        (s₀.run? outlasted).any fun s => s.processes[1]?.any Process.isFailure) = true := by decide
  obtain ⟨s₀, hs₀, goes⟩ := (Option.any_eq_true _ _).1 goes
  rw [Bool.and_eq_true, Bool.and_eq_true, decide_eq_true_iff, decide_eq_true_iff] at goes
  obtain ⟨⟨number, counts⟩, goes⟩ := goes
  obtain ⟨s, hs, goes⟩ := (Option.any_eq_true _ _).1 goes
  obtain ⟨p, hp, fails⟩ := (Option.any_eq_true _ _).1 goes
  rw [← number] at hp
  obtain ⟨ceased, failed⟩ := Process.of_isFailure fails
  obtain ⟨spares, ⟨empty, -⟩, counted⟩ :=
    failure_leaves_no_trace _ called _ spoiled s₀ s hs₀ hs p hp ceased failed
  rw [number] at hp spares counted
  refine ⟨s₀, s, p, hs₀, hs, hp, empty, fun t ht => (spares t ht).1.books, ?_⟩
  rcases counted with ⟨-, one⟩ | ⟨-, zero⟩
  · exact one
  · exact absurd zero counts

end Teller.Ledger
