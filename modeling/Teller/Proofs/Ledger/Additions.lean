import Mathlib.Algebra.BigOperators.Group.List.Basic
import Teller.Proofs.Amount
import Teller.Proofs.Ledger.Atomicity

/-!
# What a unit of work adds

A unit of work may add to a balance as often as it likes, and go on after an addition that was
refused. Its successful additions are listed along a run, each with the row that it was answered
with. The draft recalls them at every moment, and the row that was shown last is what a commit makes
of the account: no sum that a commit calculates leaves the range.
-/

namespace Teller.Ledger

variable {α : Type}

/-! ### Additions along a run -/

/-- An addition that has succeeded, with the row that it was answered with. -/
structure Addition where
  account : Id
  amount : Int64
  row : Account
deriving DecidableEq

namespace Addition

/-- What additions have added to the balance of an account. -/
def total (additions : List Addition) (id : Id) : Int :=
  (additions.map fun x => if x.account = id then x.amount.toInt else 0).sum

/-- The row of an account that was shown last. -/
def lastRow? (additions : List Addition) (id : Id) : Option Account :=
  (additions.findRev? fun x => x.account = id).map Addition.row

theorem total_concat (additions : List Addition) (x : Addition) (id : Id) :
    total (additions ++ [x]) id =
      total additions id + if x.account = id then x.amount.toInt else 0 := by
  rw [total, List.map_append, List.sum_append, List.map_singleton, List.sum_singleton]
  rfl

theorem lastRow?_concat (additions : List Addition) (x : Addition) (id : Id) :
    lastRow? (additions ++ [x]) id =
      if x.account = id then some x.row else lastRow? additions id := by
  unfold lastRow?
  rw [List.findRev?_eq_find?_reverse, List.findRev?_eq_find?_reverse, List.reverse_concat,
    List.find?_cons]
  by_cases same : x.account = id
  · rw [if_pos same, decide_eq_true same]
    rfl
  · rw [if_neg same, decide_eq_false same]

/-- Nothing was added to an account of which no row was shown. -/
theorem total_of_lastRow? {additions : List Addition} {id : Id}
    (unshown : lastRow? additions id = none) : total additions id = 0 := by
  rw [lastRow?, Option.map_eq_none_iff, List.findRev?_eq_find?_reverse,
    List.find?_eq_none] at unshown
  refine List.sum_eq_zero fun n hn => ?_
  obtain ⟨x, hx, rfl⟩ := List.mem_map.1 hn
  have other := unshown x (List.mem_reverse.2 hx)
  exact if_neg (by simpa using other)

end Addition

/-- The addition that succeeds in the next step of a process, if one does. -/
def Process.adds? (mem : Memory) : Process α → Option Addition
  | .updating d id n _ => (mem.addBalance d id n).2.toOption.map (Addition.mk id n)
  | _ => none

namespace State

/-- The addition of process `i` that succeeds at an event, if one does. -/
def adds? (s : State α) (i : Nat) : Event α → Option Addition
  | .advance j => if j = i then s.processes[i]?.bind (Process.adds? s.memory) else none
  | _ => none

/-- The additions of process `i` that succeed in a run, in order. -/
def additions (s : State α) (i : Nat) : List (Event α) → List Addition
  | [] => []
  | e :: rest =>
    match s.step? e with
    | none => []
    | some s' => (s.adds? i e).toList ++ s'.additions i rest

theorem additions_cons {s s' : State α} {e : Event α} {es : List (Event α)} {i : Nat}
    (h : s.step? e = some s') :
    s.additions i (e :: es) = (s.adds? i e).toList ++ s'.additions i es := by
  rw [additions, h]

end State

/-! ### Drafts recall what was added -/

/-- The draft adds to each balance what was added to it, and the row that was shown last is what
the account would be if the draft were committed. -/
structure Draft.Recalls (mem : Memory) (additions : List Addition) (d : Draft) : Prop where
  deltas : ∀ id, (d.deltas id).toInt = Addition.total additions id
  shown : ∀ id row, Addition.lastRow? additions id = some row → id ∈ d.held ∧
    ∃ a, mem.books.account? id = some a ∧ row = { a with balance := a.balance + d.deltas id }

namespace Draft.Recalls

variable {mem mem' : Memory} {additions : List Addition} {d : Draft}

theorem empty : Draft.empty.Recalls mem [] where
  deltas _ := rfl
  shown _ _ h := by cases h

/-- Whoever respects the rows that a draft has locked leaves what was shown as it was. -/
theorem respects (hd : d.Recalls mem additions) (h : Respects d.held mem mem') :
    d.Recalls mem' additions where
  deltas := hd.deltas
  shown id row hrow := by
    obtain ⟨locked, a, ha, row⟩ := hd.shown id row hrow
    exact ⟨locked, a, (h.frozen id locked).trans ha, row⟩

theorem lock (hd : d.Recalls mem additions) (id : Id) :
    Draft.Recalls mem additions { d with held := id :: d.held } where
  deltas := hd.deltas
  shown i row hrow := by
    obtain ⟨locked, shown⟩ := hd.shown i row hrow
    exact ⟨List.mem_cons_of_mem id locked, shown⟩

/-- An addition that succeeds is recalled from then on. -/
theorem grow (hd : d.Recalls mem additions) {id : Id} (locked : id ∈ d.held) {a : Account}
    (ha : mem.books.account? id = some a) {n pending balance : Int64}
    (sum : Amount.add? (d.deltas id) n = some pending)
    (fits : Amount.add? a.balance pending = some balance) (log : List Write) :
    Draft.Recalls mem (additions ++ [⟨id, n, { a with balance := balance }⟩])
      { d.setDelta id pending with log := log } where
  deltas i := by
    rw [Addition.total_concat]
    change (if i = id then pending else d.deltas i).toInt = _
    by_cases same : i = id
    · rw [if_pos same, if_pos same.symm, Amount.add?_eq_some_iff.1 sum, hd.deltas, same]
    · rw [if_neg same, if_neg (Ne.symm same), hd.deltas, Int.add_zero]
  shown i row hrow := by
    rw [Addition.lastRow?_concat] at hrow
    change i ∈ d.held ∧ ∃ b, mem.books.account? i = some b ∧
      row = { b with balance := b.balance + if i = id then pending else d.deltas i }
    by_cases same : i = id
    · rw [if_pos same.symm, Option.some.injEq] at hrow
      rw [same, if_pos rfl, ← hrow, Amount.eq_add fits]
      exact ⟨locked, a, ha, rfl⟩
    · rw [if_neg (Ne.symm same)] at hrow
      rw [if_neg same]
      exact hd.shown i row hrow

/-- An addition that is refused changes nothing of what a draft recalls. -/
theorem addBalance (hd : d.Recalls mem additions) {id : Id} (locked : id ∈ d.held) (n : Int64) :
    (mem.addBalance d id n).1.Recalls mem
      (additions ++ ((mem.addBalance d id n).2.toOption.map (Addition.mk id n)).toList) := by
  have unchanged : d.Recalls mem (additions ++ []) := (List.append_nil additions).symm ▸ hd
  unfold Memory.addBalance
  split
  · exact unchanged
  · next a ha =>
    split
    · exact unchanged
    · next pending sum =>
      split
      · exact unchanged
      · next balance fits => exact hd.grow locked ha sum fits _

end Draft.Recalls

/-! ### Processes recall what they added -/

/-- A process that goes on has a draft that recalls its additions, and one that has not begun has
added nothing. -/
def Process.Recalls (mem : Memory) (additions : List Addition) : Process α → Prop
  | .ready _ => additions = []
  | .active d _ | .locking d _ _ _ | .updating d _ _ _ => d.Recalls mem additions
  | .finished _ | .dropped => True

namespace Process

variable {isFree : Id → Bool} {mem mem' : Memory} {p p' : Process α} {additions : List Addition}

theorem Recalls.respects (hp : p.Recalls mem additions) (h : Respects p.held mem mem') :
    p.Recalls mem' additions := by
  cases p with
  | ready | finished | dropped => exact hp
  | active | locking | updating => exact Draft.Recalls.respects hp h

theorem Recalls.of_quiet (quiet : p.adds? mem = none) (hp' : p'.Recalls mem' additions) :
    p'.Recalls mem' (additions ++ (p.adds? mem).toList) := by
  rwa [quiet, Option.toList_none, List.append_nil]

/-- A move of a process adds what succeeds in it to what the process recalls. -/
theorem Move.recalls (move : p.Move isFree mem mem' p') (lawful : p.Lawful mem)
    (hp : p.Recalls mem additions) : p'.Recalls mem' (additions ++ (p.adds? mem).toList) := by
  cases move with
  | refused | committed | rolledBack => trivial
  | updated => exact Draft.Recalls.addBalance hp lawful.2 _
  | started =>
    change additions = [] at hp
    subst hp
    exact Draft.Recalls.empty
  | transfer | entry => exact .of_quiet rfl ⟨hp.deltas, hp.shown⟩
  | failed tripped =>
    exact .of_quiet rfl (Draft.Recalls.respects hp (.of_books_eq (Memory.books_of_trip? tripped)))
  | absent | again | asked => exact .of_quiet rfl hp
  | locked => exact .of_quiet rfl (Draft.Recalls.lock hp _)

end Process

/-! ### Runs -/

/-- Process `i` recalls these additions; if it is not there yet, there are none. -/
structure State.Recalls (i : Nat) (additions : List Addition) (s : State α) : Prop where
  disciplined : s.Disciplined
  unborn : s.processes.length ≤ i → additions = []
  recalls : ∀ p, s.processes[i]? = some p → p.Recalls s.memory additions

namespace State

variable {s s' : State α} {e : Event α} {es : List (Event α)} {i : Nat}
  {additions : List Addition}

theorem adds?_advance {p : Process α} (hp : s.processes[i]? = some p) :
    s.adds? i (.advance i) = p.adds? s.memory := by
  rw [adds?, if_pos rfl, hp, Option.bind_some]

theorem adds?_of_not_isStepOf (other : e.isStepOf i = false) : s.adds? i e = none := by
  cases e with
  | advance j => exact if_neg (of_decide_eq_false other)
  | spawn | cut | insertAccount | plant | setClock => rfl

theorem adds?_of_unborn (out : s.processes.length ≤ i) : s.adds? i e = none := by
  cases e with
  | advance j =>
    rw [adds?, List.getElem?_eq_none out]
    split <;> rfl
  | spawn | cut | insertAccount | plant | setClock => rfl

/-- What is no step of a process respects the rows that it has locked. -/
theorem Disciplined.respects (hs : s.Disciplined) (h : s.step? e = some s')
    (other : e.isStepOf i = false) {p : Process α} (hp : s.processes[i]? = some p) :
    Respects p.held s.memory s'.memory := by
  cases e with
  | advance j =>
    obtain ⟨q, mem', q', hq, move, rfl⟩ := advance?_eq_some h
    exact move.respects (hs.lawful j q hq)
      (hs.apart i j p q (Ne.symm (of_decide_eq_false other)) hp hq)
  | insertAccount owner currency balance =>
    cases h
    exact .of_insertAccount (hs.lawful i p hp).known owner currency balance
  | cut j =>
    obtain ⟨q, -, -, rfl⟩ := cut?_eq_some h
    exact .of_books_eq rfl
  | spawn | plant | setClock =>
    cases h
    exact .of_books_eq rfl

namespace Recalls

theorem recalls_step (hs : s.Recalls i additions) (h : s.step? e = some s') {p' : Process α}
    (hp' : s'.processes[i]? = some p') :
    p'.Recalls s'.memory (additions ++ (s.adds? i e).toList) := by
  cases own : e.isStepOf i with
  | false =>
    rw [adds?_of_not_isStepOf own, Option.toList_none, List.append_nil]
    cases before : s.processes[i]? with
    | some p =>
      have same := process_of_not_isStepOf own before h
      rw [hp', Option.some.injEq] at same
      subst same
      exact (hs.recalls p' before).respects (hs.disciplined.respects h own before)
    | none =>
      cases hs.disciplined.fate h hp' with
      | alone same => rw [before] at same; cases same
      | moved p there => rw [before] at there; cases there
      | dropped gone => subst gone; trivial
      | spawned work _ _ fresh => subst fresh; exact hs.unborn (List.getElem?_eq_none_iff.1 before)
  | true =>
    cases e with
    | advance j =>
      obtain rfl : j = i := of_decide_eq_true own
      obtain ⟨p, mem', q, hp, move, rfl⟩ := advance?_eq_some h
      rw [getElem?_set_of_some hp, Option.some.injEq] at hp'
      subst hp'
      rw [adds?_advance hp]
      exact move.recalls (hs.disciplined.lawful j p hp) (hs.recalls p hp)
    | cut j =>
      obtain rfl : j = i := of_decide_eq_true own
      obtain ⟨p, hp, -, rfl⟩ := cut?_eq_some h
      rw [getElem?_set_of_some hp, Option.some.injEq] at hp'
      subst hp'
      trivial
    | spawn | insertAccount | plant | setClock => cases own

theorem step (hs : s.Recalls i additions) (h : s.step? e = some s') :
    s'.Recalls i (additions ++ (s.adds? i e).toList) where
  disciplined := hs.disciplined.step h
  unborn out := by
    have before : s.processes.length ≤ i := Nat.le_trans (length_le_of_step? h) out
    rw [adds?_of_unborn before, hs.unborn before]
    rfl
  recalls _ := hs.recalls_step h

theorem run (hs : s.Recalls i additions) (h : s.run? es = some s') :
    s'.Recalls i (additions ++ s.additions i es) := by
  induction es generalizing s additions with
  | nil =>
    cases h
    exact (List.append_nil additions).symm ▸ hs
  | cons e es ih =>
    obtain ⟨mid, hmid, hrest⟩ := Option.bind_eq_some_iff.1 h
    rw [additions_cons hmid, ← List.append_assoc]
    exact ih (hs.step hmid) hrest

/-- Whatever has happened to a ledger, each of its processes recalls what it added. -/
theorem of_run (clock : Timestamp) (h : State.run? ⟨.empty clock, []⟩ es = some s) (i : Nat) :
    s.Recalls i (State.additions ⟨.empty clock, []⟩ i es) := by
  have start : State.Recalls i [] (⟨.empty clock, []⟩ : State α) :=
    ⟨.of_ready fun _ hp => absurd hp List.not_mem_nil, fun _ => rfl, nofun⟩
  exact start.run h

end Recalls

end State

/-! ### Commits -/

/-- A commit makes of each account the row that was shown last. -/
theorem Draft.Recalls.account?_commit {mem : Memory} {additions : List Addition} {d : Draft}
    (hd : d.Recalls mem additions) (id : Id) : (mem.commit d).books.account? id =
      (Addition.lastRow? additions id).or (mem.books.account? id) := by
  cases shown : Addition.lastRow? additions id with
  | some row =>
    obtain ⟨-, a, ha, rfl⟩ := hd.shown id row shown
    rw [Memory.account?_commit, ha, Option.map_some, Books.id_of_account? ha, Option.some_or]
  | none =>
    have zero : d.deltas id = 0 := by
      rw [← Int64.toInt_inj, hd.deltas, Addition.total_of_lastRow? shown]
      rfl
    rw [Memory.account?_commit_of_zero zero, Option.none_or]

/-- Whatever has happened to a ledger: where a unit of work commits, it adds only to accounts that
are there, every balance can take what it adds, and the account has exactly that sum after it; an
account of which the unit was shown a row, in an answer to an addition, has become the row that it
was shown last, and every other one is as it was. -/
theorem commit_is_exact (clock : Timestamp) (past : List (Event α)) (s s' : State α) (e : Event α)
    (i : Nat) (reached : State.run? ⟨.empty clock, []⟩ past = some s)
    (commits : s.committing? e = some i) (step : s.step? e = some s') :
    ∃ d x, s.processes[i]? = some (.active d (.done (.ok x))) ∧
      (∀ id, d.deltas id ≠ 0 → (s.memory.books.account? id).isSome) ∧
      (∀ id a, s.memory.books.account? id = some a →
        Amount.InRange (a.balance.toInt + (d.deltas id).toInt) ∧
        ∃ row, s'.memory.books.account? id = some row ∧
          row.balance.toInt = a.balance.toInt + (d.deltas id).toInt) ∧
      ∀ id, s'.memory.books.account? id =
        (Addition.lastRow? (State.additions ⟨.empty clock, []⟩ i past) id).or
          (s.memory.books.account? id) := by
  have recalls := State.Recalls.of_run clock reached i
  cases State.effect step with
  | opening event => subst event; cases commits
  | quiet _ _ event => rw [event] at commits; cases commits
  | @commit j d x before event =>
    rw [event, Option.some.injEq] at commits
    subst commits
    have lawful : d.Lawful s.memory := recalls.disciplined.lawful j _ before
    have draft : d.Recalls s.memory _ := recalls.recalls _ before
    refine ⟨d, x, before, fun id adds => ?_, fun id a ha => ?_, draft.account?_commit⟩
    · by_contra unknown
      exact adds (lawful.covered id fun locked => unknown (lawful.known id locked))
    · have sum := Amount.toInt_add (lawful.add?_isSome ha)
      refine ⟨sum ▸ Amount.inRange_toInt _, { a with balance := a.balance + d.deltas id }, ?_, sum⟩
      rw [Memory.account?_commit, ha, Option.map_some, Books.id_of_account? ha]

/-- Adds up to the end of the range, goes on after a refusal and takes something back. -/
def stubborn : Work Unit :=
  .addBalance 1 5 fun _ => .addBalance 1 5 fun _ => .addBalance 1 (-3) fun _ => .done (.ok ())

/-- The stubborn unit of work is about to commit, and a transfer waits for its row. -/
def stubbornBeforeCommit : List (Event Unit) :=
  [.insertAccount "ada" "USD" 9223372036854775800, .insertAccount "bob" "USD" 50, .spawn stubborn,
      .spawn ((fun _ => ()) <$> Work.transfer ⟨2, 1, 30⟩)] ++
    List.replicate 4 (.advance 0) ++ List.replicate 5 (.advance 1) ++ List.replicate 4 (.advance 0)

theorem stubborn_commit_is_exact : ∃ s s' : State Unit,
    State.run? ⟨.empty .epoch, []⟩ stubbornBeforeCommit = some s ∧
      s.step? (.advance 0) = some s' ∧
      (s.memory.books.account? 1).map Account.balance = some 9223372036854775800 ∧
      (State.additions ⟨.empty .epoch, []⟩ 0 stubbornBeforeCommit).map Addition.amount = [5, -3] ∧
      (Addition.lastRow? (State.additions ⟨.empty .epoch, []⟩ 0 stubbornBeforeCommit) 1).map
        Account.balance = some 9223372036854775802 ∧
      (s'.memory.books.account? 1).map Account.balance = some 9223372036854775802 := by
  have goes : ((State.run? ⟨.empty .epoch, []⟩ stubbornBeforeCommit).any fun s =>
      s.committing? (.advance 0) = some 0 && (s.step? (.advance 0)).isSome &&
        (s.memory.books.account? 1).map Account.balance = some 9223372036854775800) = true := by
    decide +kernel
  have shown : (Addition.lastRow? (State.additions ⟨.empty .epoch, []⟩ 0 stubbornBeforeCommit)
      1).map Account.balance = some 9223372036854775802 := by decide +kernel
  obtain ⟨s, hs, goes⟩ := (Option.any_eq_true _ _).1 goes
  rw [Bool.and_eq_true, Bool.and_eq_true, decide_eq_true_iff, decide_eq_true_iff] at goes
  obtain ⟨⟨commits, goes⟩, before⟩ := goes
  obtain ⟨s', step⟩ := Option.isSome_iff_exists.1 goes
  obtain ⟨d, x, -, -, -, after⟩ :=
    commit_is_exact _ stubbornBeforeCommit s s' _ 0 hs commits step
  refine ⟨s, s', hs, step, before, by decide +kernel, shown, ?_⟩
  obtain ⟨row, last, balance⟩ := Option.map_eq_some_iff.1 shown
  rw [after 1, last, Option.some_or, Option.map_some, balance]

end Teller.Ledger
