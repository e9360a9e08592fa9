import Teller.Proofs.Ledger.Coordinator
import Teller.Proofs.Ledger.Transfer

/-!
# Transfers one after the other

A transfer that has a memory without planted failures to itself succeeds if both accounts are there
and both balances stay in range, and leaves them as the movement makes them.
-/

namespace Teller.Ledger

variable {α β : Type}

/-! ### Writes of the only open unit of work -/

theorem run_bind_of_eq {σ γ δ : Type} {x : StateM σ γ} {s s' : σ} {c : γ}
    (h : x.run s = (c, s')) (k : γ → StateM σ δ) : (x >>= k).run s = (k c).run s' := by
  rw [StateT.run_bind, h]
  rfl

theorem alone_bind {x : Work α} {s s' : Memory × Draft} {a : α}
    (h : (alone.perform x).run s = (.ok a, s')) (f : α → Work β) :
    (alone.perform (x >>= f)).run s = (alone.perform (f a)).run s' := by
  rw [perform_bind, run_bind_of_eq h]

theorem Memory.trip?_of_no_faults {mem : Memory} (none : mem.faults = []) (f : Fault) :
    mem.trip? f = .none := by
  rw [trip?, none]
  exact if_neg List.not_mem_nil

variable {mem : Memory} {m : Movement}

theorem Draft.deltas_lock (d : Draft) (id : Id) : (d.lock id).deltas = d.deltas := by
  unfold lock
  split <;> rfl

/-- Alone, the row of an account that is there is locked and added to at once. -/
theorem alone_add_of_known (sound : mem.faults = []) (d : Draft) {id : Id} (n : Int64)
    (known : (mem.books.account? id).isSome) :
    (alone.perform (Work.add id n)).run (mem, d) =
      ((mem.addBalance (d.lock id) id n).2, mem, (mem.addBalance (d.lock id) id n).1) := by
  have found : ¬(mem.books.account? id).isNone := by simpa [Option.isSome_iff_ne_none] using known
  change StateT.run (alone.addBalance id n >>= fun r => pure r) (mem, d) = _
  rw [bind_pure]
  simp only [alone, StateT.run, Memory.trip?_of_no_faults sound, if_neg found]

theorem add?_zero (n : Int64) : Amount.add? 0 n = some n := by
  rw [Amount.add?_eq_some_iff]
  simp

theorem alone_add (sound : mem.faults = []) {d : Draft} {id : Id} {n : Int64}
    (untouched : d.deltas id = 0) {a : Account} (ha : mem.books.account? id = some a)
    {balance : Int64} (hb : Amount.add? a.balance n = some balance) :
    ∃ d', Adds id n d d' ∧
      (alone.perform (Work.add id n)).run (mem, d) = (.ok { a with balance := balance }, mem, d') := by
  have reply : mem.addBalance (d.lock id) id n =
      ({ (d.lock id).setDelta id n with log := (d.lock id).log ++ [.add id n] },
        .ok { a with balance := balance }) := by
    simp only [Memory.addBalance, ha, d.deltas_lock, untouched, add?_zero, hb]
  refine ⟨{ (d.lock id).setDelta id n with log := (d.lock id).log ++ [.add id n] }, ?_, ?_⟩
  · unfold Draft.lock
    split <;> exact ⟨rfl, rfl, rfl⟩
  · rw [alone_add_of_known sound d n (ha ▸ rfl), reply]

/-- Alone, an addition that would leave the range is refused. -/
theorem alone_add_refused (sound : mem.faults = []) {d : Draft} {id : Id} {n : Int64}
    (untouched : d.deltas id = 0) {a : Account} (ha : mem.books.account? id = some a)
    (hb : Amount.add? a.balance n = none) :
    (alone.perform (Work.add id n)).run (mem, d) = (.error Memory.outOfRange, mem, d.lock id) := by
  have reply : mem.addBalance (d.lock id) id n = (d.lock id, .error Memory.outOfRange) := by
    simp only [Memory.addBalance, ha, d.deltas_lock, untouched, add?_zero, hb]
  rw [alone_add_of_known sound d n (ha ▸ rfl), reply]

/-- Alone, the additions of a movement succeed if both accounts can be moved. -/
theorem alone_moveBalances (sound : mem.faults = []) {d : Draft}
    (untouched : d.deltas = fun _ => 0) {a b : Account} (ha : mem.moved? m m.source = some a)
    (hb : mem.moved? m m.target = some b) :
    ∃ d', Moves mem m d d' (a, b) ∧
      (alone.perform (Work.moveBalances m)).run (mem, d) = (.ok (a, b), mem, d') := by
  have first {id : Id} : d.deltas id = 0 := congrFun untouched id
  obtain ⟨x, p, hx, hp, rfl⟩ := moved?_cases ha
  obtain ⟨y, q, hy, hq, rfl⟩ := moved?_cases hb
  unfold Work.moveBalances
  split
  · next same =>
    have zero := congrFun (Movement.delta_self same) m.source
    obtain ⟨d₁, one, run₁⟩ := alone_add sound first hx (zero ▸ hp)
    rw [← same, ha, Option.some.injEq] at hb
    rw [alone_bind run₁, ← hb]
    exact ⟨d₁, .of_add same untouched one ha, rfl⟩
  · next ne =>
    have out := Movement.delta_source ne
    have into := Movement.delta_target ne
    split
    · obtain ⟨d₁, one, run₁⟩ := alone_add sound first hx (out ▸ hp)
      obtain ⟨d₂, two, run₂⟩ := alone_add sound (one.untouched untouched (Ne.symm ne)) hy (into ▸ hq)
      rw [alone_bind run₁, alone_bind run₂]
      exact ⟨d₂, .of_adds ne untouched one two (.inl ⟨rfl, rfl, rfl, rfl⟩) ha hb, rfl⟩
    · obtain ⟨d₁, one, run₁⟩ := alone_add sound first hy (into ▸ hq)
      obtain ⟨d₂, two, run₂⟩ := alone_add sound (one.untouched untouched ne) hx (out ▸ hp)
      rw [alone_bind run₁, alone_bind run₂]
      exact ⟨d₂, .of_adds ne untouched one two (.inr ⟨rfl, rfl, rfl, rfl⟩) ha hb, rfl⟩

/-! ### Beginning and end -/

theorem length_inTurn (mem : Memory) (works : List (Work α)) :
    (mem.inTurn works).2.length = works.length := by
  induction works generalizing mem with
  | nil => rfl
  | cons work works ih => exact congrArg (· + 1) (ih _)

/-- How a unit of work ends whose writes have come to a result. -/
def Memory.conclude (mem : Memory) (d : Draft) : Except Store.Error α → Memory × Except Store.Error α
  | .ok x => (mem.commit d, .ok x)
  | .error e => (mem.rollback.1, .error (failureAfter e mem.rollback.2))

theorem carryOut_of_refused {mem' : Memory} (work : Work α) (start : mem.trip? .start = some mem') :
    mem.carryOut work = (mem', .error (Memory.refused "begin refused")) := by
  have refused : alone.start.run (mem, .empty) =
      (.error (Memory.refused "begin refused"), mem', .empty) := by
    simp only [alone, StateT.run, start]
  rw [Memory.carryOut, execute, run_bind_of_eq refused]
  rfl

theorem carryOut_of_started {mem' : Memory} {d' : Draft} {result : Except Store.Error α}
    {work : Work α} (start : mem.trip? .start = none)
    (h : (alone.perform work).run (mem, .empty) = (result, mem', d')) :
    mem.carryOut work = mem'.conclude d' result := by
  have begun : alone.start.run (mem, .empty) = (.ok (), mem, .empty) := by
    simp only [alone, StateT.run, start]
  rw [Memory.carryOut, execute, run_bind_of_eq begun]
  dsimp only
  rw [run_bind_of_eq h]
  cases result <;> rfl

/-- The accounts after a movement. -/
def Books.afterMovement (books : Books) (m : Movement) : List Account :=
  books.accounts.map fun a => { a with balance := a.balance + m.delta a.id }

/-- A transfer that is alone succeeds if both accounts can be moved, and moves them. -/
theorem carryOut_transfer (sound : mem.faults = []) {a b : Account}
    (ha : mem.moved? m m.source = some a) (hb : mem.moved? m m.target = some b) :
    ∃ mem' r, mem.carryOut (Work.transfer m) = (mem', .ok r) ∧ mem'.faults = [] ∧
      mem'.books.accounts = mem.books.afterMovement m ∧ r.source = a ∧ r.target = b := by
  let one := mem.createTransfer .empty m
  let two := one.1.createEntry one.2.1 m.source (-m.amount)
  let three := two.1.createEntry two.2.1 m.target m.amount
  have untouched : three.2.1.deltas = fun _ => 0 := rfl
  obtain ⟨d', moves, run⟩ := alone_moveBalances (show three.1.faults = [] from sound) untouched ha hb
  let receipt : Receipt := ⟨one.2.2, a, b, two.2.2, three.2.2⟩
  have whole : (alone.perform (Work.transfer m)).run (mem, .empty) = (.ok receipt, three.1, d') := by
    have rows (f : Transfer → Entry → Entry → Work Receipt) :
        (alone.perform (do
          let transfer ← Work.recordTransfer m
          let debit ← Work.recordEntry m.source (-m.amount)
          let credit ← Work.recordEntry m.target m.amount
          f transfer debit credit)).run (mem, .empty) =
        (alone.perform (f one.2.2 two.2.2 three.2.2)).run (three.1, three.2.1) := rfl
    rw [Work.transfer, rows, alone_bind run]
    rfl
  refine ⟨_, receipt, carryOut_of_started (Memory.trip?_of_no_faults sound .start) whole, sound, ?_,
    rfl, rfl⟩
  rw [Memory.commit, moves.deltas]
  rfl

end Teller.Ledger
