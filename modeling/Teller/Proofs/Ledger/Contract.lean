import Mathlib.Data.List.Forall2
import Teller.Proofs.Ledger.Transaction

/-!
# The contract of the coordinator

A plan says what is called next after each answer. On any ledger, carrying out a unit of work is
carrying out one plan, so the calls that a ledger receives depend on nothing but its own answers.

The run of a plan is a list of calls. A call that is never answered ends it.
-/

namespace Teller.Ledger

open Store

/-! ### Plans -/

/-- What can be asked of a ledger. -/
inductive Operation where
  | start
  | createTransfer (movement : Movement)
  | createEntry (account : Id) (amount : Int64)
  | addBalance (account : Id) (delta : Int64)
  | commit
  | rollback
deriving DecidableEq

namespace Operation

/-- What there is if the operation succeeds. -/
@[reducible] def Row : Operation → Type
  | .createTransfer _ => Transfer
  | .createEntry _ _ => Entry
  | .addBalance _ _ => Account
  | .start | .commit | .rollback => Unit

/-- What a call of an operation is answered with. -/
abbrev Answer (op : Operation) : Type := Except Store.Error op.Row

/-- Operations inside a transaction, which neither begin nor end it. -/
def IsWrite : Operation → Prop
  | .createTransfer _ | .createEntry _ _ | .addBalance _ _ => True
  | .start | .commit | .rollback => False

end Operation

/-- A call of an operation, and the answer if there was one. -/
structure Called where
  operation : Operation
  answer : Option operation.Answer

/-- What is called next after each answer, until a value is there. -/
inductive Plan (α : Type) where
  | done (x : α)
  | call (op : Operation) (next : op.Answer → Plan α)

namespace Plan

variable {α β : Type}

/-- Goes on with another plan, by what comes of the first. -/
def andThen : Plan α → (α → Plan β) → Plan β
  | .done x, f => f x
  | .call op next, f => .call op fun a => (next a).andThen f

instance : Monad Plan where
  pure := .done
  bind := andThen

theorem bind_pure (p : Plan α) : p >>= pure = p := by
  induction p with
  | done => rfl
  | call op next ih => exact congrArg (Plan.call op) (funext ih)

theorem bind_assoc {γ : Type} (p : Plan α) (f : α → Plan β) (g : β → Plan γ) :
    p >>= f >>= g = p >>= fun a => f a >>= g := by
  induction p with
  | done => rfl
  | call op next ih => exact congrArg (Plan.call op) (funext ih)

instance : LawfulMonad Plan := LawfulMonad.mk' _ bind_pure (fun _ _ => rfl) bind_assoc

/-- The plan can run this way: with these calls, to this end. -/
inductive Runs : Plan α → List Called → Option α → Prop where
  | done (x : α) : Runs (.done x) [] (some x)
  | unanswered (op : Operation) (next : op.Answer → Plan α) : Runs (.call op next) [⟨op, none⟩] none
  | answered (op : Operation) {next : op.Answer → Plan α} {calls : List Called} {ending : Option α}
      (a : op.Answer) (later : Runs (next a) calls ending) :
      Runs (.call op next) (⟨op, some a⟩ :: calls) ending

variable {calls : List Called}

theorem runs_pure_iff {x : α} {ending : Option α} :
    (pure x : Plan α).Runs calls ending ↔ calls = [] ∧ ending = some x := by
  constructor
  · intro h
    cases h
    exact ⟨rfl, rfl⟩
  · rintro ⟨rfl, rfl⟩
    exact .done x

theorem runs_call_iff {op : Operation} {next : op.Answer → Plan α} {ending : Option α} :
    (call op next).Runs calls ending ↔
      (calls = [⟨op, none⟩] ∧ ending = none) ∨
        ∃ a rest, calls = ⟨op, some a⟩ :: rest ∧ (next a).Runs rest ending := by
  constructor
  · intro h
    cases h with
    | unanswered => exact .inl ⟨rfl, rfl⟩
    | answered _ a later => exact .inr ⟨a, _, rfl, later⟩
  · rintro (⟨rfl, rfl⟩ | ⟨a, rest, rfl, later⟩)
    · exact .unanswered op next
    · exact .answered op a later

/-- A run of two plans in turn falls into a run of each, or ends within the first. -/
theorem runs_bind_iff {p : Plan α} {f : α → Plan β} {ending : Option β} :
    (p >>= f).Runs calls ending ↔
      (p.Runs calls none ∧ ending = none) ∨
        ∃ x front back, calls = front ++ back ∧ p.Runs front (some x) ∧ (f x).Runs back ending := by
  constructor
  · intro h
    induction p generalizing calls with
    | done x => exact .inr ⟨x, [], calls, rfl, .done x, h⟩
    | call op next ih =>
      rcases runs_call_iff.1 h with ⟨rfl, rfl⟩ | ⟨a, rest, rfl, later⟩
      · exact .inl ⟨.unanswered op next, rfl⟩
      · rcases ih a later with ⟨stalls, none⟩ | ⟨x, front, back, rfl, hp, hf⟩
        · exact .inl ⟨.answered op a stalls, none⟩
        · exact .inr ⟨x, ⟨op, some a⟩ :: front, back, rfl, .answered op a hp, hf⟩
  · rintro (⟨stalls, rfl⟩ | ⟨x, front, back, rfl, hp, hf⟩)
    · induction p generalizing calls with
      | done x => cases stalls
      | call op next ih =>
        rcases runs_call_iff.1 stalls with ⟨rfl, -⟩ | ⟨a, rest, rfl, later⟩
        · exact .unanswered op _
        · exact .answered op a (ih a later)
    · induction p generalizing front with
      | done y =>
        cases hp
        exact hf
      | call op next ih =>
        obtain ⟨-, ended⟩ | ⟨a, rest, rfl, later⟩ := runs_call_iff.1 hp
        · cases ended
        · exact .answered op a (ih a rest later)

end Plan

/-! ### Ledgers and plans -/

variable {m : Type → Type} [Monad m] {α β : Type}

/-- The ledger that only plans. -/
def planned : Ledger Plan where
  start := .call .start .done
  createTransfer movement := .call (.createTransfer movement) .done
  createEntry account amount := .call (.createEntry account amount) .done
  addBalance account delta := .call (.addBalance account delta) .done
  commit := .call .commit .done
  rollback := .call .rollback .done

/-- How a ledger answers a call. -/
def answer (ledger : Ledger m) : (op : Operation) → m op.Answer
  | .start => ledger.start
  | .createTransfer movement => ledger.createTransfer movement
  | .createEntry account amount => ledger.createEntry account amount
  | .addBalance account delta => ledger.addBalance account delta
  | .commit => ledger.commit
  | .rollback => ledger.rollback

/-- Makes the calls of a plan one after the other. -/
def Plan.carriedOut (ledger : Ledger m) : Plan α → m α
  | .done x => return x
  | .call op next => do (next (← ledger.answer op)).carriedOut ledger

/-- A unit of work makes its calls as planned. -/
theorem perform_eq_carriedOut (ledger : Ledger m) (work : Work α) :
    ledger.perform work = (planned.perform work).carriedOut ledger := by
  induction work with
  | done result => rfl
  | createTransfer movement next ih => exact bind_congr ih
  | createEntry account amount next ih => exact bind_congr ih
  | addBalance account delta next ih => exact bind_congr ih

section

variable [LawfulMonad m] (ledger : Ledger m)

/-- On a ledger, too, the second plan goes on from what came of the first. -/
theorem carriedOut_bind (p : Plan α) (f : α → Plan β) :
    (p >>= f).carriedOut ledger = p.carriedOut ledger >>= fun x => (f x).carriedOut ledger := by
  induction p with
  | done x => exact (pure_bind (m := m) x fun x => (f x).carriedOut ledger).symm
  | call op next ih =>
    rw [Plan.carriedOut, bind_assoc]
    exact bind_congr ih

/-- So does the coordinator. -/
theorem execute_eq_carriedOut (work : Work α) :
    ledger.execute work = (planned.execute work).carriedOut ledger := by
  have start : ledger.start = (planned.start).carriedOut ledger := (bind_pure ledger.start).symm
  have commit : ledger.commit = (planned.commit).carriedOut ledger := (bind_pure ledger.commit).symm
  have rollback : ledger.rollback = (planned.rollback).carriedOut ledger :=
    (bind_pure ledger.rollback).symm
  unfold execute
  rw [carriedOut_bind, start]
  refine bind_congr fun opened => ?_
  cases opened with
  | error e => rfl
  | ok _ =>
    dsimp only
    rw [carriedOut_bind, perform_eq_carriedOut]
    refine bind_congr fun result => ?_
    cases result with
    | ok x =>
      dsimp only
      rw [carriedOut_bind, commit]
      refine bind_congr fun ended => ?_
      cases ended <;> rfl
    | error e =>
      dsimp only
      rw [carriedOut_bind, rollback]
      rfl

end

/-! ### Runs of the coordinator -/

/-- The run of a transaction around a unit of work, given by its own runs. -/
inductive Conducted (unit : List Called → Option (Except Store.Error α) → Prop) :
    List Called → Option (Except Store.Error α) → Prop where
  | unopened : Conducted unit [⟨.start, none⟩] none
  | refused (e : Store.Error) : Conducted unit [⟨.start, some (.error e)⟩] (some (.error e))
  | stalled {writes : List Called} (h : unit writes none) :
      Conducted unit (⟨.start, some (.ok ())⟩ :: writes) none
  | committed {writes : List Called} {x : α} (h : unit writes (some (.ok x))) :
      Conducted unit (⟨.start, some (.ok ())⟩ :: (writes ++ [⟨.commit, some (.ok ())⟩]))
        (some (.ok x))
  | uncommitted {writes : List Called} {x : α} (h : unit writes (some (.ok x)))
      (e : Store.Error) :
      Conducted unit (⟨.start, some (.ok ())⟩ :: (writes ++ [⟨.commit, some (.error e)⟩]))
        (some (.error e))
  | commitStalled {writes : List Called} {x : α} (h : unit writes (some (.ok x))) :
      Conducted unit (⟨.start, some (.ok ())⟩ :: (writes ++ [⟨.commit, none⟩])) none
  | rolledBack {writes : List Called} {e : Store.Error} (h : unit writes (some (.error e))) :
      Conducted unit (⟨.start, some (.ok ())⟩ :: (writes ++ [⟨.rollback, some (.ok ())⟩]))
        (some (.error e))
  | notRolledBack {writes : List Called} {e : Store.Error} (h : unit writes (some (.error e)))
      (undo : Store.Error) :
      Conducted unit (⟨.start, some (.ok ())⟩ :: (writes ++ [⟨.rollback, some (.error undo)⟩]))
        (some (.error (.rollback e undo)))
  | rollbackStalled {writes : List Called} {e : Store.Error} (h : unit writes (some (.error e))) :
      Conducted unit (⟨.start, some (.ok ())⟩ :: (writes ++ [⟨.rollback, none⟩])) none

/-- How a transaction is ended after its unit of work. -/
def closing : Except Store.Error α → Plan (Except Store.Error α)
  | .ok x => .call .commit fun ended => .done (ended.map fun _ => x)
  | .error e => .call .rollback fun undone => .done (.error (failureAfter e undone))

/-- The plan of a unit of work: it starts, writes and closes by the result. -/
theorem planned_execute (work : Work α) :
    planned.execute work = .call .start fun
      | .error e => .done (.error e)
      | .ok () => planned.perform work >>= closing := by
  refine congrArg (Plan.call .start) (funext fun opened => ?_)
  cases opened with
  | error e => rfl
  | ok _ =>
    refine congrArg (planned.perform work >>= ·) (funext fun result => ?_)
    cases result with
    | ok x =>
      refine congrArg (Plan.call .commit) (funext fun ended => ?_)
      cases ended <;> rfl
    | error e => rfl

section

variable {unit : List Called → Option (Except Store.Error α) → Prop} {calls : List Called}
  {ending : Option (Except Store.Error α)}

/-- After its unit of work a transaction is conducted to its end. -/
theorem conducted_of_closing {writes last : List Called} {result : Except Store.Error α}
    (h : unit writes (some result)) (finishing : (closing result).Runs last ending) :
    Conducted unit (⟨.start, some (.ok ())⟩ :: (writes ++ last)) ending := by
  cases result with
  | ok x =>
    rcases Plan.runs_call_iff.1 finishing with ⟨rfl, rfl⟩ | ⟨ended, rest, rfl, done⟩
    · exact .commitStalled h
    cases done
    cases ended with
    | ok _ => exact .committed h
    | error e => exact .uncommitted h e
  | error e =>
    rcases Plan.runs_call_iff.1 finishing with ⟨rfl, rfl⟩ | ⟨undone, rest, rfl, done⟩
    · exact .rollbackStalled h
    cases done
    cases undone with
    | ok _ => exact .rolledBack h
    | error undo => exact .notRolledBack h undo

/-- A transaction is not begun, or its unit of work stalls, or it is closed after its unit of
work. -/
theorem Conducted.cases_closing (h : Conducted unit calls ending) :
    (calls = [⟨.start, none⟩] ∧ ending = none) ∨
      (∃ e, calls = [⟨.start, some (.error e)⟩] ∧ ending = some (.error e)) ∨
      (∃ writes, calls = ⟨.start, some (.ok ())⟩ :: writes ∧ unit writes none ∧ ending = none) ∨
      ∃ result writes last, calls = ⟨.start, some (.ok ())⟩ :: (writes ++ last) ∧
        unit writes (some result) ∧ (closing result).Runs last ending := by
  cases h with
  | unopened => exact .inl ⟨rfl, rfl⟩
  | refused e => exact .inr (.inl ⟨e, rfl, rfl⟩)
  | stalled h => exact .inr (.inr (.inl ⟨_, rfl, h, rfl⟩))
  | committed h =>
    exact .inr (.inr (.inr ⟨_, _, _, rfl, h, .answered .commit (.ok ()) (.done _)⟩))
  | uncommitted h e =>
    exact .inr (.inr (.inr ⟨_, _, _, rfl, h, .answered .commit (.error e) (.done _)⟩))
  | commitStalled h => exact .inr (.inr (.inr ⟨_, _, _, rfl, h, .unanswered .commit _⟩))
  | rolledBack h =>
    exact .inr (.inr (.inr ⟨_, _, _, rfl, h, .answered .rollback (.ok ()) (.done _)⟩))
  | notRolledBack h undo =>
    exact .inr (.inr (.inr ⟨_, _, _, rfl, h, .answered .rollback (.error undo) (.done _)⟩))
  | rollbackStalled h => exact .inr (.inr (.inr ⟨_, _, _, rfl, h, .unanswered .rollback _⟩))

end

/-- The plan of a transaction runs as a transaction is conducted. -/
theorem runs_execute_iff {work : Work α} {calls : List Called}
    {ending : Option (Except Store.Error α)} :
    (planned.execute work).Runs calls ending ↔
      Conducted (planned.perform work).Runs calls ending := by
  rw [planned_execute]
  constructor
  · intro h
    rcases Plan.runs_call_iff.1 h with ⟨rfl, rfl⟩ | ⟨opened, rest, rfl, going⟩
    · exact .unopened
    cases opened with
    | error e =>
      cases going
      exact .refused e
    | ok _ =>
      rcases Plan.runs_bind_iff.1 going with
        ⟨stalls, rfl⟩ | ⟨result, writes, last, rfl, unit, finishing⟩
      · exact .stalled stalls
      · exact conducted_of_closing unit finishing
  · intro h
    rcases h.cases_closing with
      ⟨rfl, rfl⟩ | ⟨e, rfl, rfl⟩ | ⟨writes, rfl, unit, rfl⟩ |
        ⟨result, writes, last, rfl, unit, finishing⟩
    · exact .unanswered .start _
    · exact .answered .start (.error e) (.done _)
    · exact .answered .start (.ok ()) (Plan.runs_bind_iff.2 (.inl ⟨unit, rfl⟩))
    · exact .answered .start (.ok ())
        (Plan.runs_bind_iff.2 (.inr ⟨result, writes, last, rfl, unit, finishing⟩))

/-- A unit of work neither begins nor ends a transaction. -/
theorem isWrite_of_runs {work : Work α} {calls : List Called}
    {ending : Option (Except Store.Error α)} (h : (planned.perform work).Runs calls ending) :
    ∀ c ∈ calls, c.operation.IsWrite := by
  have step (op : Operation) (write : op.IsWrite) {next : op.Answer → Work α}
      (ih : ∀ a {calls}, (planned.perform (next a)).Runs calls ending →
        ∀ c ∈ calls, c.operation.IsWrite) {calls : List Called}
      (h : (Plan.call op fun a => planned.perform (next a)).Runs calls ending) :
      ∀ c ∈ calls, c.operation.IsWrite := by
    rcases Plan.runs_call_iff.1 h with ⟨rfl, -⟩ | ⟨a, rest, rfl, later⟩
    · exact List.forall_mem_singleton.2 write
    · exact List.forall_mem_cons.2 ⟨write, ih a later⟩
  induction work generalizing calls with
  | done result =>
    cases h
    exact fun c hc => absurd hc List.not_mem_nil
  | createTransfer movement next ih => exact step (.createTransfer movement) trivial ih h
  | createEntry account amount next ih => exact step (.createEntry account amount) trivial ih h
  | addBalance account delta next ih => exact step (.addBalance account delta) trivial ih h

/-! ### Lists of steps -/

/-- The operation that a step calls, and what it makes of the row. -/
inductive Step.Calls : Step → (op : Operation) → (op.Row → Written) → Prop where
  | add (account : Id) (delta : Int64) :
      Calls (.add account delta) (.addBalance account delta) .account
  | entry (account : Id) (amount : Int64) :
      Calls (.entry account amount) (.createEntry account amount) .entry
  | transfer (movement : Movement) :
      Calls (.transfer movement) (.createTransfer movement) .transfer

/-- The run of a list of steps: they are taken in order, up to the first that fails. -/
inductive Takes : List Step → List Called → Option (Except Store.Error (List Written)) → Prop where
  | finished : Takes [] [] (some (.ok []))
  | given (e : Store.Error) (rest : List Step) : Takes (.fail e :: rest) [] (some (.error e))
  | unanswered {s : Step} {op : Operation} {written : op.Row → Written} (h : s.Calls op written)
      (rest : List Step) : Takes (s :: rest) [⟨op, none⟩] none
  | failed {s : Step} {op : Operation} {written : op.Row → Written} (h : s.Calls op written)
      (rest : List Step) (e : Store.Error) :
      Takes (s :: rest) [⟨op, some (.error e)⟩] (some (.error e))
  | taken {s : Step} {op : Operation} {written : op.Row → Written} {rest : List Step}
      {calls : List Called} {ending : Option (Except Store.Error (List Written))}
      (h : s.Calls op written) (row : op.Row) (later : Takes rest calls ending) :
      Takes (s :: rest) (⟨op, some (.ok row)⟩ :: calls)
        (ending.map fun result => result.map (written row :: ·))

theorem perform_step {s : Step} {op : Operation} {written : op.Row → Written}
    (h : s.Calls op written) :
    planned.perform s.work = .call op fun a => .done (a.map written) := by
  cases h with
  | add | entry | transfer =>
    refine congrArg (Plan.call _) (funext fun a => ?_)
    cases a <;> rfl

/-- The plan of a list of steps calls one operation and goes on only from its success. -/
theorem planned_steps {s : Step} {op : Operation} {written : op.Row → Written}
    (h : s.Calls op written) (rest : List Step) :
    planned.perform (Work.steps (s :: rest)) = .call op fun
      | .ok row => planned.perform (Work.steps rest) >>= fun result =>
          pure (result.map (written row :: ·))
      | .error e => .done (.error e) := by
  rw [Work.steps, perform_bind, perform_step h]
  refine congrArg (Plan.call op) (funext fun a => ?_)
  cases a with
  | error e => rfl
  | ok row =>
    refine (perform_bind planned (Work.steps rest) _).trans ?_
    refine congrArg (planned.perform (Work.steps rest) >>= ·) (funext fun result => ?_)
    cases result <;> rfl

theorem Step.calls_cases (s : Step) :
    (∃ e, s = .fail e) ∨ ∃ op written, s.Calls op written := by
  cases s with
  | add account delta => exact .inr ⟨_, _, .add account delta⟩
  | entry account amount => exact .inr ⟨_, _, .entry account amount⟩
  | transfer movement => exact .inr ⟨_, _, .transfer movement⟩
  | fail e => exact .inl ⟨e, rfl⟩

theorem takes_of_runs {steps : List Step} {calls : List Called}
    {ending : Option (Except Store.Error (List Written))}
    (h : (planned.perform (Work.steps steps)).Runs calls ending) : Takes steps calls ending := by
  induction steps generalizing calls ending with
  | nil =>
    cases h
    exact .finished
  | cons s rest ih =>
    rcases s.calls_cases with ⟨e, rfl⟩ | ⟨op, written, step⟩
    · cases h
      exact .given e rest
    rw [planned_steps step] at h
    rcases Plan.runs_call_iff.1 h with ⟨rfl, rfl⟩ | ⟨a, calls, rfl, later⟩
    · exact .unanswered step rest
    cases a with
    | error e =>
      cases later
      exact .failed step rest e
    | ok row =>
      rcases Plan.runs_bind_iff.1 later with
        ⟨stalls, rfl⟩ | ⟨result, front, back, rfl, done, last⟩
      · exact .taken step row (ih stalls)
      · obtain ⟨rfl, rfl⟩ := Plan.runs_pure_iff.1 last
        rw [List.append_nil]
        exact .taken step row (ih done)

theorem Takes.runs {steps : List Step} {calls : List Called}
    {ending : Option (Except Store.Error (List Written))} (h : Takes steps calls ending) :
    (planned.perform (Work.steps steps)).Runs calls ending := by
  induction h with
  | finished => exact .done _
  | given e rest => exact .done _
  | unanswered step rest =>
    rw [planned_steps step]
    exact .unanswered _ _
  | failed step rest e =>
    rw [planned_steps step]
    exact .answered _ (.error e) (.done _)
  | @taken s op written rest calls ending step row later ih =>
    rw [planned_steps step]
    refine Plan.runs_call_iff.2 (.inr ⟨.ok row, calls, rfl, Plan.runs_bind_iff.2 ?_⟩)
    cases ending with
    | none => exact .inl ⟨ih, rfl⟩
    | some result =>
      exact .inr ⟨result, calls, [], (List.append_nil calls).symm, ih, .done _⟩

/-- The runs of a list of steps are told by the list: its calls in order, and how they end. -/
theorem runs_steps_iff {steps : List Step} {calls : List Called}
    {ending : Option (Except Store.Error (List Written))} :
    (planned.perform (Work.steps steps)).Runs calls ending ↔ Takes steps calls ending :=
  ⟨takes_of_runs, Takes.runs⟩

/-! ### The ledger in the database -/

namespace Operation

/-- The request that stands for an operation. -/
def request : Operation → Request
  | .start => .start
  | .createTransfer movement => .query .insertTransfer
      [.integer movement.source, .integer movement.target, .ofAmount movement.amount]
  | .createEntry account amount => .query .insertEntry [.integer account, .ofAmount amount]
  | .addBalance account delta => .query .addBalance [.ofAmount delta, .integer account]
  | .commit => .commit
  | .rollback => .rollback

/-- What a reply of the database means. -/
def read : (op : Operation) → Reply → op.Answer
  | .createTransfer _, reply => do
    readFirst Statement.insertTransfer.answer Transfer.ofCells (← reply.rows?)
  | .createEntry _ _, reply => do
    readFirst Statement.insertEntry.answer Entry.ofCells (← reply.rows?)
  | .addBalance _ _, reply => do
    readFirst Statement.addBalance.answer Account.ofCells (← reply.rows?)
  | .start, reply | .commit, reply | .rollback, reply => do let _ ← reply.count?

end Operation

theorem stored_answer (op : Operation) :
    stored.answer op = Interaction.send op.request >>= fun reply => pure (op.read reply) := by
  cases op <;> rfl

/-- A call, sent to the database as a request. -/
def Called.IsSent (c : Called) (e : Exchange) : Prop :=
  ∃ reply, e = .sent c.operation.request reply ∧ c.answer = reply.map c.operation.read

/-- The database is asked what the plan calls, and nothing else. -/
theorem goes_carriedOut_iff {p : Plan α} {log : List Exchange} {ending : Option α} :
    (p.carriedOut stored).Goes log ending ↔
      ∃ calls, p.Runs calls ending ∧ List.Forall₂ Called.IsSent calls log := by
  -- On the plan: a call whose reply never comes is the last one, any other is followed by a plan.
  induction p generalizing log with
  | done x =>
    constructor
    · intro h
      obtain ⟨rfl, rfl⟩ := Interaction.goes_pure_iff.1 h
      exact ⟨[], .done x, .nil⟩
    · rintro ⟨calls, run, sent⟩
      cases run
      cases sent
      exact .done x
  | call op next ih =>
    rw [Plan.carriedOut, stored_answer]
    constructor
    · intro h
      rcases h.bind_cases with ⟨stalls, rfl⟩ | ⟨a, front, back, rfl, answered, going⟩
      · obtain ⟨reply, rfl, ended⟩ := Interaction.goes_send_iff.1 stalls
        exact ⟨[⟨op, none⟩], .unanswered op next, .cons ⟨reply, rfl, ended⟩ .nil⟩
      · obtain ⟨reply, rfl, ended⟩ := Interaction.goes_send_iff.1 answered
        obtain ⟨calls, run, sent⟩ := (ih a).1 going
        exact ⟨⟨op, some a⟩ :: calls, .answered op a run, .cons ⟨reply, rfl, ended⟩ sent⟩
    · rintro ⟨calls, run, sent⟩
      rcases Plan.runs_call_iff.1 run with ⟨rfl, rfl⟩ | ⟨a, rest, rfl, later⟩
      · obtain ⟨e, log, ⟨reply, rfl, ended⟩, none, rfl⟩ := List.forall₂_cons_left_iff.1 sent
        cases none
        cases reply with
        | none => exact Interaction.goes_ask_iff.2 ⟨none, [], rfl, .stalled⟩
        | some reply => cases ended
      · obtain ⟨e, log, ⟨reply, rfl, ended⟩, others, rfl⟩ := List.forall₂_cons_left_iff.1 sent
        have answered : (Interaction.send op.request >>= fun reply => pure (op.read reply)).Goes
            [.sent op.request reply] (some a) := Interaction.goes_send_iff.2 ⟨reply, rfl, ended⟩
        exact answered.bind ((ih a).2 ⟨rest, later, others⟩)

/-- Whatever a ledger answers, it is asked to begin once; if it begins, it receives the calls of the
unit of work, which are writes, and then one call to commit or to roll back, by how the unit ended.
The steps of a list are taken up to the first that fails. In the database the same is sent. -/
theorem coordinator_contract [LawfulMonad m] (ledger : Ledger m) (work : Work α) :
    ledger.execute work = (planned.execute work).carriedOut ledger ∧
      ledger.perform work = (planned.perform work).carriedOut ledger ∧
      (∀ calls ending, (planned.execute work).Runs calls ending ↔
        Conducted (planned.perform work).Runs calls ending) ∧
      (∀ calls ending, (planned.perform work).Runs calls ending →
        ∀ c ∈ calls, c.operation.IsWrite) ∧
      (∀ steps calls ending, (planned.perform (Work.steps steps)).Runs calls ending ↔
        Takes steps calls ending) ∧
      ∀ steps log ending, (storedSteps steps).Goes log ending ↔
        ∃ calls, Conducted (Takes steps) calls ending ∧ List.Forall₂ Called.IsSent calls log := by
  refine ⟨execute_eq_carriedOut ledger work, perform_eq_carriedOut ledger work,
    fun _ _ => runs_execute_iff, fun _ _ => isWrite_of_runs, fun _ _ _ => runs_steps_iff, ?_⟩
  intro steps log ending
  have same : (planned.perform (Work.steps steps)).Runs = Takes steps :=
    funext fun calls => funext fun ending => propext runs_steps_iff
  rw [storedSteps, execute_eq_carriedOut, goes_carriedOut_iff, ← same]
  simp only [runs_execute_iff]

/-- The second of two steps breaks the connection, so that the rollback fails too. -/
theorem broken_connection_contract :
    (storedSteps [.entry 1 5, .add 1 5]).Goes
      [.sent .start (some (.affected 0)),
        .sent (.query .insertEntry [.integer 1, .integer 5])
          (some (.rows [[.integer 1, .integer 1, .integer 5, .instant .epoch]])),
        .sent (.query .addBalance [.integer 5, .integer 1]) (some .broken),
        .sent .rollback (some .broken)]
      (some (.error (.rollback (.database .broken) (.database .broken)))) := by
  obtain ⟨-, -, -, -, -, sent⟩ := coordinator_contract stored (Work.steps [.entry 1 5, .add 1 5])
  have first : Takes [.add 1 5] [⟨.addBalance 1 5, some (.error (.database .broken))⟩]
      (some (.error (.database .broken))) := .failed (.add 1 5) [] _
  have both := Takes.taken (.entry 1 5) ⟨1, 1, 5, .epoch⟩ first
  refine (sent _ _ _).2 ⟨_, .notRolledBack both _, ?_⟩
  exact .cons ⟨_, rfl, rfl⟩ (.cons ⟨_, rfl, rfl⟩ (.cons ⟨_, rfl, rfl⟩ (.cons ⟨_, rfl, rfl⟩ .nil)))

end Teller.Ledger
