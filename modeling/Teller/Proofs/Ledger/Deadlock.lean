import Mathlib.Logic.Relation
import Teller.Proofs.Ledger.Calls

/-!
# No deadlock

A transfer reaches for the lower of its two accounts first. So a process that waits for a row has
locked rows of lower accounts only, and along a chain of processes, each waiting for a row that the
next one has locked, the rows waited for climb:

    process 1 ──waits for 4──▶ process 2 ──waits for 7──▶ process 3
    has 2                      has 4                      has 7

The chain never comes back to where it began, and its last process can go on.
-/

namespace Teller.Ledger

variable {α β : Type}

/-! ### Units of work that reach upwards -/

/-- Adds to balances in ascending order of the accounts, all of them above those in `past`. -/
def Work.Ascends : List Id → Work α → Prop
  | _, .done _ => True
  | past, .createTransfer _ next => ∀ r, (next r).Ascends past
  | past, .createEntry _ _ next => ∀ r, (next r).Ascends past
  | past, .addBalance id _ next => (∀ h ∈ past, h < id) ∧ ∀ r, (next r).Ascends (id :: past)

namespace Work

theorem Ascends.mono {past past' : List Id} {work : Work α} (h : work.Ascends past)
    (sub : ∀ id ∈ past', id ∈ past) : work.Ascends past' := by
  induction work generalizing past past' with
  | done => trivial
  | createTransfer m next ih => exact fun r => ih r (h r) sub
  | createEntry id n next ih => exact fun r => ih r (h r) sub
  | addBalance id n next ih =>
    refine ⟨fun i hi => h.1 i (sub i hi), fun r => ih r (h.2 r) fun i hi => ?_⟩
    rcases List.mem_cons.1 hi with rfl | hi
    · exact List.mem_cons_self
    · exact List.mem_cons_of_mem id (sub i hi)

theorem ascends_add {past : List Id} {id : Id} {n : Int64} {f : Account → Work α}
    (above : ∀ h ∈ past, h < id) (rest : ∀ a, (f a).Ascends (id :: past)) :
    (add id n >>= f).Ascends past := by
  refine ⟨above, fun r => ?_⟩
  cases r with
  | ok a => exact rest a
  | error e => trivial

/-- What follows and adds to no balance does no harm. -/
theorem Ascends.bind {past : List Id} {x : Work α} {f : α → Work β} (hx : x.Ascends past)
    (hf : ∀ a past, (f a).Ascends past) : (x >>= f).Ascends past := by
  induction x generalizing past with
  | done result =>
    cases result with
    | ok a => exact hf a past
    | error e => trivial
  | createTransfer m next ih => exact fun r => ih r (hx r)
  | createEntry id n next ih => exact fun r => ih r (hx r)
  | addBalance id n next ih => exact ⟨hx.1, fun r => ih r (hx.2 r)⟩

theorem moveBalances_ascends (m : Movement) : (moveBalances m).Ascends [] := by
  have first {id : Id} : ∀ h ∈ ([] : List Id), h < id := fun _ h => absurd h List.not_mem_nil
  have second {id id' : Id} (lt : id < id') : ∀ h ∈ [id], h < id' := by
    intro h hh
    rwa [List.mem_singleton.1 hh]
  unfold moveBalances
  split
  · exact ascends_add first fun _ => trivial
  · next ne =>
    split
    · next lt => exact ascends_add first fun _ => ascends_add (second lt) fun _ => trivial
    · next ge =>
      have lt : m.target < m.source := Int.lt_iff_le_and_ne.2 ⟨Int.not_lt.1 ge, Ne.symm ne⟩
      exact ascends_add first fun _ => ascends_add (second lt) fun _ => trivial

theorem ascends_row {past : List Id} {r : Except Store.Error α} {f : α → Work β}
    (rest : ∀ a, (f a).Ascends past) : (Work.done r >>= f).Ascends past := by
  cases r with
  | ok a => exact rest a
  | error e => trivial

/-- A transfer adds to the balances of its accounts in ascending order. -/
theorem transfer_ascends (m : Movement) : (transfer m).Ascends [] :=
  fun _ => ascends_row fun _ _ => ascends_row fun _ _ => ascends_row fun _ =>
    (moveBalances_ascends m).bind fun _ _ => trivial

end Work

/-! ### Processes that reach upwards -/

/-- What is left of the unit of work reaches for rows above those that the process has locked. -/
def Process.Ascending : Process α → Prop
  | .ready work => work.Ascends []
  | .active d work => work.Ascends d.held
  | .locking d id n next => (Work.addBalance id n next).Ascends d.held
  | .updating d _ _ next => ∀ r, (next r).Ascends d.held
  | .finished _ | .dropped => True

namespace Process

theorem Move.ascending {isFree : Id → Bool} {mem mem' : Memory} {p p' : Process α}
    (move : p.Move isFree mem mem' p') (h : p.Ascending) : p'.Ascending := by
  cases move with
  | refused | committed | rolledBack => trivial
  | started => exact h
  | transfer => exact h _
  | entry => exact h _
  | failed => exact (h.2 _).mono fun _ => List.mem_cons_of_mem _
  | absent => exact (h.2 _).mono fun _ => List.mem_cons_of_mem _
  | again => exact fun r => (h.2 r).mono fun _ => List.mem_cons_of_mem _
  | asked => exact h
  | locked => exact h.2
  | @updated d id n next =>
    change (next (mem.addBalance d id n).2).Ascends (mem.addBalance d id n).1.held
    rw [Memory.held_addBalance]
    exact h _

theorem stable_ascending : Stable fun _ (p : Process α) => p.Ascending where
  moved _ move h := move.ascending h
  respects _ h := h
  dropped _ := trivial

/-- A process waits for a row above all that it has locked. -/
theorem Ascending.below {p : Process α} (h : p.Ascending) {id : Id} (waits : p.awaited? = some id) :
    ∀ id' ∈ p.held, id' < id := by
  cases p with
  | locking d id n next => cases waits; exact h.1
  | ready | active | updating | finished | dropped => cases waits

end Process

/-! ### Waiting for each other -/

namespace State

/-- Process `i` waits for a row that process `j` has locked. -/
def WaitsFor (s : State α) (i j : Nat) : Prop :=
  ∃ p q id, s.processes[i]? = some p ∧ s.processes[j]? = some q ∧ p.awaited? = some id ∧ id ∈ q.held

/-- The lock order: each process waits for a row above all that it has locked. -/
def Ordered (s : State α) : Prop :=
  ∀ (i : Nat) (p : Process α) (id : Id), s.processes[i]? = some p → p.awaited? = some id →
    ∀ id' ∈ p.held, id' < id

variable {s : State α}

/-- A process at the end of a chain has locked a row no lower than the one that the process at its
beginning waits for. -/
theorem Ordered.climbs (hs : s.Ordered) {i j : Nat} (chain : Relation.TransGen s.WaitsFor i j) :
    ∃ p q id id', s.processes[i]? = some p ∧ s.processes[j]? = some q ∧ p.awaited? = some id ∧
      id' ∈ q.held ∧ id ≤ id' := by
  induction chain with
  | single h =>
    obtain ⟨p, q, id, hp, hq, waits, held⟩ := h
    exact ⟨p, q, id, id, hp, hq, waits, held, Int.le_refl id⟩
  | tail _ h ih =>
    obtain ⟨p, q, id, id', hp, hq, waits, held, le⟩ := ih
    obtain ⟨q', r, next, hq', hr, waits', held'⟩ := h
    rw [hq, Option.some.injEq] at hq'
    subst hq'
    have lt := hs _ q next hq waits' id' held
    exact ⟨p, r, id, next, hp, hr, waits, held', Int.le_of_lt (Int.lt_of_le_of_lt le lt)⟩

theorem Ordered.acyclic (hs : s.Ordered) (i : Nat) : ¬Relation.TransGen s.WaitsFor i i := by
  intro cycle
  obtain ⟨p, q, id, id', hp, hq, waits, held, le⟩ := hs.climbs cycle
  rw [hp, Option.some.injEq] at hq
  subst hq
  have lt := hs i p id hp waits id' held
  exact Int.lt_irrefl id (Int.lt_of_le_of_lt le lt)

/-! ### Somebody can go on -/

/-- A process that has not ended can go on unless it waits for a row that is taken. -/
theorem advance?_isSome_of {isFree : Id → Bool} {p : Process α} (unfinished : p.isOver = false)
    (free : ∀ id, p.awaited? = some id → isFree id = true) (mem : Memory) :
    (p.advance? isFree mem).isSome := by
  cases p with
  | ready work =>
    simp only [Process.advance?]
    split <;> rfl
  | active d work =>
    cases work with
    | done result => cases result <;> rfl
    | createTransfer | createEntry => rfl
    | addBalance id n next =>
      simp only [Process.advance?]
      split
      · rfl
      · split
        · rfl
        · split <;> rfl
  | locking d id n next => simp only [Process.advance?, free id rfl, if_true, Option.isSome_some]
  | updating => rfl
  | finished | dropped => cases unfinished

theorem exists_holder {id : Id} (taken : s.isFree id = false) :
    ∃ (j : Nat) (q : Process α), s.processes[j]? = some q ∧ id ∈ q.held := by
  obtain ⟨q, hq, held⟩ := List.all_eq_false.1 taken
  obtain ⟨j, hj⟩ := List.mem_iff_getElem?.1 hq
  exact ⟨j, q, hj, by simpa using held⟩

/-- A process that has not ended and waits for nobody can go on. -/
theorem can_advance {i : Nat} {p : Process α} (hp : s.processes[i]? = some p)
    (unfinished : p.isOver = false) (waits : ¬∃ j, s.WaitsFor i j) : (s.advance? i).isSome := by
  have free : ∀ id, p.awaited? = some id → s.isFree id = true := by
    intro id hid
    cases taken : s.isFree id with
    | true => rfl
    | false =>
      obtain ⟨j, q, hq, held⟩ := exists_holder taken
      exact absurd ⟨j, p, q, id, hp, hq, hid, held⟩ waits
  obtain ⟨⟨mem', p'⟩, h⟩ := Option.isSome_iff_exists.1 (advance?_isSome_of unfinished free s.memory)
  simp only [advance?, hp, Option.bind_eq_bind, Option.bind_some, h]
  rfl

/-- In the lock order, whoever has locked the highest row that somebody waits for waits for
nobody. -/
theorem Ordered.exists_free (hs : s.Ordered) {i : Nat} {p : Process α}
    (hp : s.processes[i]? = some p) (unfinished : p.isOver = false) :
    ∃ j q, s.processes[j]? = some q ∧ q.isOver = false ∧ ¬∃ k, s.WaitsFor j k := by
  cases highest : (s.processes.filterMap Process.awaited?).max? with
  | none =>
    refine ⟨i, p, hp, unfinished, ?_⟩
    rintro ⟨k, p', q, id, hp', -, waits, -⟩
    have mem := List.mem_filterMap.2 ⟨p', List.mem_of_getElem? hp', waits⟩
    rw [List.max?_eq_none_iff.1 highest] at mem
    exact absurd mem List.not_mem_nil
  | some top =>
    obtain ⟨found, bound⟩ := List.max?_eq_some_iff.1 highest
    obtain ⟨p, mem, waits⟩ := List.mem_filterMap.1 found
    obtain ⟨i, hp⟩ := List.mem_iff_getElem?.1 mem
    have unfinished : p.isOver = false := by cases p <;> first | rfl | cases waits
    by_cases free : ∃ k, s.WaitsFor i k
    · obtain ⟨k, p', q, id, hp', hq, waits', held⟩ := free
      rw [hp, Option.some.injEq] at hp'
      subst hp'
      rw [waits, Option.some.injEq] at waits'
      subst waits'
      refine ⟨k, q, hq, ?_, ?_⟩
      · cases q with
        | finished | dropped => exact absurd held List.not_mem_nil
        | ready | active | locking | updating => rfl
      · -- Whatever the holder waited for would be higher still.
        rintro ⟨l, q', r, id, hq', -, waits', -⟩
        rw [hq, Option.some.injEq] at hq'
        subst hq'
        have lt := hs k q id hq waits' top held
        have le := bound id (List.mem_filterMap.2 ⟨q, List.mem_of_getElem? hq, waits'⟩)
        exact Int.lt_irrefl top (Int.lt_of_lt_of_le lt le)
    · exact ⟨i, p, hp, unfinished, free⟩

end State

/-! ### Transfers -/

/-- However transfers run side by side, and whatever fails or is cut off: who waits has locked only
rows below the one it waits for, nobody waits for himself along any chain, and as long as some
transfer has not ended there is one that waits for nobody and can go on. -/
theorem transfers_never_deadlock (mem : Memory) (calls : List Movement) (es : List (Event Receipt))
    (s : State Receipt) (closed : ∀ e ∈ es, e.isSpawn = false)
    (h : (State.ofCalls mem calls).run? es = some s) :
    (∀ (i : Nat) (p : Process Receipt) (id : Id), s.processes[i]? = some p →
      p.awaited? = some id → ∀ id' ∈ p.held, id' < id) ∧
    (∀ i, ¬Relation.TransGen s.WaitsFor i i) ∧
    ((∃ p ∈ s.processes, p.isOver = false) → ∃ j q, s.processes[j]? = some q ∧ q.isOver = false ∧
      (¬∃ k, s.WaitsFor j k) ∧ (s.advance? j).isSome) := by
  have ascending : s.Disciplined ∧ ∀ (i : Nat) p, s.processes[i]? = some p → p.Ascending := by
    refine State.run?_keeps
      (fun s => s.Disciplined ∧ ∀ (i : Nat) p, s.processes[i]? = some p → p.Ascending)
      (fun e => e.isSpawn = false) (fun s e s' he hs h => ⟨hs.1.step h, ?_⟩) closed
      ⟨(Underway.ofCalls mem calls).disciplined, fun i p hp => ?_⟩ h
    · refine hs.1.keeps (fun _ => Process.stable_ascending) hs.2 (fun work event => ?_) h
      rw [event] at he
      cases he
    · obtain ⟨m, -, rfl⟩ := List.mem_map.1 (List.mem_of_getElem? hp)
      exact Work.transfer_ascends m
  -- Whoever reaches for accounts in ascending order waits above all that it has locked.
  have ordered : s.Ordered := fun i p id hp waits => (ascending.2 i p hp).below waits
  refine ⟨ordered, ordered.acyclic, ?_⟩
  rintro ⟨p, hp, unfinished⟩
  obtain ⟨i, hi⟩ := List.mem_iff_getElem?.1 hp
  obtain ⟨j, q, hq, unfinished', free⟩ := ordered.exists_free hi unfinished
  exact ⟨j, q, hq, unfinished', free, State.can_advance hq unfinished' free⟩

/-- Three accounts that pay each other in a ring. -/
def ring : List Movement := [⟨1, 2, 5⟩, ⟨2, 3, 5⟩, ⟨3, 1, 5⟩]

/-- The third call waits for the first, and the first one for the second. -/
def ringed : List (Event Receipt) :=
  List.replicate 6 (.advance 0) ++ List.replicate 6 (.advance 1) ++ List.replicate 2 (.advance 0) ++
    List.replicate 5 (.advance 2)

theorem ring_goes_on : ∃ s, (State.ofCalls (.holding [10, 10, 10]) ring).run? ringed = some s ∧
    (∀ i, ¬Relation.TransGen s.WaitsFor i i) ∧
    ∃ j q, s.processes[j]? = some q ∧ q.isOver = false ∧ (s.advance? j).isSome := by
  have goes : (((State.ofCalls (.holding [10, 10, 10]) ring).run? ringed).any fun s =>
      s.processes.any fun p => !p.isOver) = true := by decide
  obtain ⟨s, hs, waiting⟩ := (Option.any_eq_true _ _).1 goes
  have unfinished : ∃ p ∈ s.processes, p.isOver = false := by simpa using waiting
  obtain ⟨-, acyclic, free⟩ := transfers_never_deadlock (.holding [10, 10, 10]) ring ringed s
    (by decide) hs
  obtain ⟨j, q, hq, unfinished, -, goesOn⟩ := free unfinished
  exact ⟨s, hs, acyclic, j, q, hq, unfinished, goesOn⟩

end Teller.Ledger
