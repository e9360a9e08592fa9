import Teller.Proofs.Ledger.Additions
import Teller.Proofs.Ledger.Deadlock

/-!
# Answers to additions

A unit of work that adds to a balance is answered with the account as it would be if the unit were
committed then. Two sums have to be in range for that: what the unit has added to the balance by
itself, and the balance with it. So an addition can be refused although the balance could take it.
-/

namespace Teller.Ledger

variable {α : Type}

/-! ### One addition -/

namespace Memory

/-- The account with this balance, if the balance is in range. -/
def update (a : Account) (sum : Int) : Except Store.Error Account :=
  match Amount.ofInt? sum with
  | some balance => .ok { a with balance := balance }
  | none => .error outOfRange

/-- What an addition is answered with, where the unit of work has added `added` before it. -/
def addition (a : Account) (added : Int) (n : Int64) : Except Store.Error Account :=
  if Amount.InRange (added + n.toInt) then update a (a.balance.toInt + added + n.toInt)
  else .error outOfRange

theorem snd_addBalance {mem : Memory} {id : Id} {a : Account}
    (known : mem.books.account? id = some a) (d : Draft) (n : Int64) :
    (mem.addBalance d id n).2 = addition a (d.deltas id).toInt n := by
  unfold addBalance addition update Amount.add?
  rw [known]
  dsimp only
  cases sum : Amount.ofInt? ((d.deltas id).toInt + n.toInt) with
  | none => rw [if_neg (Amount.ofInt?_eq_none_iff.1 sum)]
  | some pending =>
    have value := Amount.ofInt?_eq_some_iff.1 sum
    rw [← value, if_pos (Amount.inRange_toInt pending), Int.add_assoc, ← value]
    dsimp only
    cases Amount.ofInt? (a.balance.toInt + pending.toInt) <;> rfl

end Memory

/-! ### From the question to the answer -/

/-- An addition that a unit of work has asked for, and how it goes on with the answer. -/
structure Pending (α : Type) where
  account : Id
  amount : Int64
  next : Except Store.Error Account → Work α

namespace Process

/-- The addition that a process is about. -/
def pending? : Process α → Option (Pending α)
  | .active _ (.addBalance id n next) | .locking _ id n next | .updating _ id n next =>
    some ⟨id, n, next⟩
  | _ => none

/-- How many steps a process is at most away from the answer to its addition. -/
def stepsLeft : Process α → Nat
  | .updating .. => 1
  | .locking .. => 2
  | _ => 3

variable {isFree : Id → Bool} {mem mem' : Memory} {p p' : Process α} {c : Pending α} {a : Account}
  {additions : List Addition}

/-- A move of a process that is about an addition brings it closer to the answer, or to it. -/
theorem Move.pending (move : p.Move isFree mem mem' p') (hp : p.Recalls mem additions)
    (pending : p.pending? = some c) (known : mem.books.account? c.account = some a)
    (unplanted : .balance c.account ∉ mem.faults) :
    let answer := Memory.addition a (Addition.total additions c.account) c.amount
    (mem' = mem ∧ p'.pending? = some c ∧ p'.stepsLeft < p.stepsLeft ∧ p.adds? mem = none) ∨
      (∃ d, p' = .active d (c.next answer)) ∧
        p.adds? mem = answer.toOption.map (Addition.mk c.account c.amount) := by
  intro answer
  cases move with
  | updated =>
    next d id n next =>
    cases pending
    have answered : (mem.addBalance d id n).2 = answer := by
      rw [Memory.snd_addBalance known, Draft.Recalls.deltas hp]
    refine .inr ⟨⟨(mem.addBalance d id n).1, ?_⟩, ?_⟩
    · rw [answered]
    · rw [adds?, answered]
  | again => exact .inl ⟨rfl, pending, (by decide : 1 < 3), rfl⟩
  | asked => exact .inl ⟨rfl, pending, (by decide : 2 < 3), rfl⟩
  | locked => exact .inl ⟨rfl, pending, (by decide : 1 < 2), rfl⟩
  | failed tripped =>
    cases pending
    exact absurd (Memory.trip?_eq_some tripped).1 unplanted
  | absent _ unknown =>
    cases pending
    rw [known] at unknown
    cases unknown
  | refused | started | committed | rolledBack | transfer | entry => cases pending

theorem stepsLeft_le (p : Process α) : p.stepsLeft ≤ 3 := by
  cases p <;> simp only [stepsLeft] <;> omega

theorem stepsLeft_pos (p : Process α) : 0 < p.stepsLeft := by
  cases p <;> exact Nat.succ_pos _

/-- A process that is about an addition waits for no row but that of its account. -/
theorem awaited?_of_pending? (pending : p.pending? = some c) {id : Id}
    (waits : p.awaited? = some id) : id = c.account := by
  cases p with
  | locking =>
    cases pending
    cases waits
    rfl
  | ready | active | updating | finished | dropped => cases waits

end Process

namespace State

variable {s s' : State α} {i : Nat} {additions : List Addition} {c : Pending α} {a : Account}

/-- Process `i`, left to itself, goes on with this work after at most so many steps. -/
def GoesOn (s : State α) (i : Nat) (steps : Nat) (work : Work α) : Prop :=
  ∃ k ≤ steps, ∃ s' d, s.run? (List.replicate k (.advance i)) = some s' ∧
    s'.processes[i]? = some (.active d work)

theorem GoesOn.now {d : Draft} {work : Work α} (h : s.processes[i]? = some (.active d work)) :
    s.GoesOn i 0 work := ⟨0, Nat.le_refl 0, s, d, rfl, h⟩

theorem GoesOn.step {k : Nat} {work : Work α} (h : s.step? (.advance i) = some s')
    (rest : s'.GoesOn i k work) : s.GoesOn i (k + 1) work := by
  obtain ⟨m, le, s'', d, hrest, hd⟩ := rest
  exact ⟨m + 1, Nat.succ_le_succ le, s'', d, Option.bind_eq_some_iff.2 ⟨s', h, hrest⟩, hd⟩

theorem GoesOn.mono {k m : Nat} {work : Work α} (h : s.GoesOn i k work) (le : k ≤ m) :
    s.GoesOn i m work := by
  obtain ⟨j, lek, rest⟩ := h
  exact ⟨j, lek.trans le, rest⟩

/-- No other process has locked the row of an account. -/
def Undisputed (s : State α) (i : Nat) (id : Id) : Prop :=
  ∀ j q, j ≠ i → s.processes[j]? = some q → id ∉ q.held

namespace Recalls

/-- A process that is about an addition waits for nobody if no other one has locked the row. -/
theorem not_waitsFor {s : State α} {p : Process α} (hs : s.Recalls i additions)
    (hp : s.processes[i]? = some p) (pending : p.pending? = some c)
    (undisputed : s.Undisputed i c.account) : ¬∃ j, s.WaitsFor i j := by
  rintro ⟨j, p', q, id, hp', hq, waits, held⟩
  rw [hp, Option.some.injEq] at hp'
  subst hp'
  by_cases own : j = i
  · subst own
    rw [hp, Option.some.injEq] at hq
    subst hq
    have lawful := hs.disciplined.lawful j p hp
    cases p with
    | locking => cases waits; exact lawful.2.2 held
    | ready | active | updating | finished | dropped => cases waits
  · exact undisputed j q own hq (p.awaited?_of_pending? pending waits ▸ held)

/-- An addition is answered, unless its process has to wait for another one. -/
theorem goesOn {s : State α} {p : Process α} (hs : s.Recalls i additions)
    (hp : s.processes[i]? = some p) (pending : p.pending? = some c)
    (known : s.memory.books.account? c.account = some a)
    (unplanted : .balance c.account ∉ s.memory.faults) (undisputed : s.Undisputed i c.account) :
    s.GoesOn i p.stepsLeft
      (c.next (Memory.addition a (Addition.total additions c.account) c.amount)) := by
  have unfinished : p.isOver = false := by cases p <;> first | rfl | cases pending
  obtain ⟨s', h⟩ := Option.isSome_iff_exists.1
    (can_advance hp unfinished (hs.not_waitsFor hp pending undisputed))
  have step : s.step? (.advance i) = some s' := h
  have later := hs.step step
  rw [adds?_advance hp] at later
  obtain ⟨q, mem', p', hq, move, rfl⟩ := advance?_eq_some h
  rw [hp, Option.some.injEq] at hq
  subst hq
  rcases move.pending (hs.recalls p hp) pending known unplanted with
    ⟨rfl, pending', closer, none⟩ | ⟨⟨d, rfl⟩, -⟩
  · rw [none, Option.toList_none, List.append_nil] at later
    have undisputed' : Undisputed ⟨s.memory, s.processes.set i p'⟩ i c.account := by
      intro j q ne hq
      rw [List.getElem?_set_ne (Ne.symm ne)] at hq
      exact undisputed j q ne hq
    exact (GoesOn.step step (later.goesOn (getElem?_set_of_some hp p') pending' known unplanted
      undisputed')).mono closer
  · exact (GoesOn.step step (.now (getElem?_set_of_some hp _))).mono p.stepsLeft_pos
termination_by p.stepsLeft

/-- A step leaves a process about its addition, answers it or cuts the process off. -/
theorem pending_step {e : Event α} {p p' : Process α} (hs : s.Recalls i additions)
    (hp : s.processes[i]? = some p) (pending : p.pending? = some c)
    (known : s.memory.books.account? c.account = some a)
    (unplanted : .balance c.account ∉ s.memory.faults) (h : s.step? e = some s')
    (hp' : s'.processes[i]? = some p') :
    let answer := Memory.addition a (Addition.total additions c.account) c.amount
    ((p'.pending? = some c ∨ p' = .dropped) ∧ s.adds? i e = none) ∨
      (∃ d, p' = .active d (c.next answer)) ∧
        s.adds? i e = answer.toOption.map (Addition.mk c.account c.amount) := by
  intro answer
  cases own : e.isStepOf i with
  | false =>
    have same := process_of_not_isStepOf own hp h
    rw [hp', Option.some.injEq] at same
    exact .inl ⟨.inl (same ▸ pending), adds?_of_not_isStepOf own⟩
  | true =>
    cases e with
    | advance j =>
      obtain rfl : j = i := of_decide_eq_true own
      rw [adds?_advance hp]
      obtain ⟨q, mem', q', hq, move, rfl⟩ := advance?_eq_some h
      rw [hp, Option.some.injEq] at hq
      subst hq
      rw [getElem?_set_of_some hp, Option.some.injEq] at hp'
      subst hp'
      rcases move.pending (hs.recalls p hp) pending known unplanted with
        ⟨-, closer, -, none⟩ | answered
      · exact .inl ⟨.inl closer, none⟩
      · exact .inr answered
    | cut j =>
      obtain rfl : j = i := of_decide_eq_true own
      obtain ⟨q, hq, -, rfl⟩ := cut?_eq_some h
      rw [getElem?_set_of_some hq, Option.some.injEq] at hp'
      exact .inl ⟨.inr hp'.symm, rfl⟩
    | spawn | insertAccount | plant | setClock => cases own

end Recalls

end State

/-- Whatever has happened to a ledger: where a unit of work is about an addition to an account that
is there, and no failure is planted for it, each step leaves it about that addition or answers it,
if it does not cut the unit off; and unless another unit has locked the row, the answer comes within
three steps. It is the account with the sum of its balance, of all that the unit has added to it
before and of the amount; or it is out of range, if that sum is, or the sum without the balance. -/
theorem additions_answered (clock : Timestamp) (past : List (Event α)) (s : State α) (i : Nat)
    (p : Process α) (c : Pending α) (a : Account)
    (reached : State.run? ⟨.empty clock, []⟩ past = some s) (before : s.processes[i]? = some p)
    (pending : p.pending? = some c) (known : s.memory.books.account? c.account = some a)
    (unplanted : .balance c.account ∉ s.memory.faults) :
    let added := Addition.total (State.additions ⟨.empty clock, []⟩ i past) c.account
    let answer := Memory.addition a added c.amount
    (∀ e s' p', s.step? e = some s' → s'.processes[i]? = some p' →
      ((p'.pending? = some c ∨ p' = .dropped) ∧ s.adds? i e = none) ∨
        (∃ d, p' = .active d (c.next answer)) ∧
          s.adds? i e = answer.toOption.map (Addition.mk c.account c.amount)) ∧
    (s.Undisputed i c.account → s.GoesOn i 3 (c.next answer)) := by
  intro added answer
  have recalls := State.Recalls.of_run clock reached i
  constructor
  · intro e s' p' step after
    exact recalls.pending_step before pending known unplanted step after
  · intro undisputed
    exact (recalls.goesOn before pending known unplanted undisputed).mono p.stepsLeft_le

/-- Adds to one account, to another one, and asks to take something back from the first. -/
def twiceToOne : List (Event (List Written)) :=
  [.insertAccount "ada" "USD" 100, .insertAccount "bob" "USD" 50,
      .spawn (Work.steps [.add 1 5, .add 2 7, .add 1 (-3)])] ++ List.replicate 7 (.advance 0)

theorem second_addition_answered :
    ∃ (s : State (List Written)) (c : Pending (List Written)) (a : Account),
      State.run? ⟨.empty .epoch, []⟩ twiceToOne = some s ∧
        s.processes[0]?.bind Process.pending? = some c ∧ c.account = 1 ∧ c.amount = -3 ∧
        s.memory.books.account? 1 = some a ∧ a.balance = 100 ∧
        s.GoesOn 0 3 (c.next (.ok { a with balance := 102 })) := by
  refine ⟨_, _, _, rfl, rfl, rfl, rfl, rfl, rfl, ?_⟩
  refine (additions_answered .epoch twiceToOne _ 0 _ _ _ rfl rfl rfl rfl (by decide)).2 ?_
  intro j q ne hq
  cases j with
  | zero => exact absurd rfl ne
  | succ j => cases hq

/-- Ada owes 5 and is given the greatest amount; then she is given 5 more. -/
def overdrawn : List (Event (List Written)) :=
  [.insertAccount "ada" "USD" (-5), .spawn (Work.steps [.add 1 9223372036854775807, .add 1 5])] ++
    List.replicate 5 (.advance 0)

/-- An addition can be refused although the balance with all that the unit has added to it, this
amount included, is in range. -/
theorem sum_in_range_refused :
    ∃ (s s' : State (List Written)) (c : Pending (List Written)) (a : Account),
      State.run? ⟨.empty .epoch, []⟩ overdrawn = some s ∧ s.memory.faults = [] ∧
        s.processes[0]?.bind Process.pending? = some c ∧
        s.memory.books.account? c.account = some a ∧
        Amount.InRange (a.balance.toInt +
          Addition.total (State.additions ⟨.empty .epoch, []⟩ 0 overdrawn) c.account +
            c.amount.toInt) ∧
        s.step? (.advance 0) = some s' ∧
        (∃ d, s'.processes[0]? = some (.active d (c.next (.error Memory.outOfRange)))) ∧
        (s'.step? (.advance 0)).bind (fun s => s.processes[0]?) =
          some (.finished (.error Memory.outOfRange)) := by
  refine ⟨_, _, _, _, rfl, rfl, rfl, rfl, ?_, rfl, ⟨_, rfl⟩, rfl⟩
  decide +kernel

end Teller.Ledger
