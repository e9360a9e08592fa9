import Teller.Ledger.Alone
import Teller.Proofs.Ledger.Locks

/-!
# What a unit of work assures

What a unit of work has written by the time it commits, said of the unit alone and of the books it
commits to. Whatever it read of them before, it read from rows that it had locked by then, so the
books of that moment tell all that it was answered. An assurance of the unit is therefore one of
its process, whatever the other processes do.
-/

namespace Teller.Ledger

variable {α β : Type}

/-- If the unit of work goes on from a draft and commits while the books are as in `mem`, then `post`
holds of its draft and its value. -/
def Work.Ensures (mem : Memory) (post : Draft → α → Prop) : Draft → Work α → Prop
  | d, .done (.ok x) => post d x
  | _, .done (.error _) => True
  | d, .createTransfer m next => ∀ now : Memory,
    (next (.ok (now.createTransfer d m).2.2)).Ensures mem post (now.createTransfer d m).2.1
  | d, .createEntry id n next => ∀ now : Memory,
    (next (.ok (now.createEntry d id n).2.2)).Ensures mem post (now.createEntry d id n).2.1
  | d, .addBalance id n next =>
    (∀ e, (next (.error e)).Ensures mem post d) ∧
    (next (mem.addBalance (d.lock id) id n).2).Ensures mem post (mem.addBalance (d.lock id) id n).1

/-! ### Rules for the parts of a unit of work -/

namespace Work

variable {mem : Memory} {d : Draft}

theorem ensures_bind (post : Draft → β → Prop) (x : Work α) (f : α → Work β) :
    (x >>= f).Ensures mem post d ↔ x.Ensures mem (fun d a => (f a).Ensures mem post d) d := by
  induction x generalizing d with
  | done result => cases result <;> rfl
  | createTransfer m next ih => exact forall_congr' fun now => ih _
  | createEntry id n next ih => exact forall_congr' fun now => ih _
  | addBalance id n next ih => exact and_congr (forall_congr' fun e => ih _) (ih _)

theorem ensures_mono {post post' : Draft → α → Prop} (h : ∀ d x, post d x → post' d x)
    {x : Work α} (hx : x.Ensures mem post d) : x.Ensures mem post' d := by
  induction x generalizing d with
  | done result =>
    cases result with
    | ok a => exact h d a hx
    | error e => trivial
  | createTransfer m next ih => exact fun now => ih _ (hx now)
  | createEntry id n next ih => exact fun now => ih _ (hx now)
  | addBalance id n next ih => exact ⟨fun e => ih _ (hx.1 e), ih _ hx.2⟩

theorem ensures_recordTransfer (post : Draft → Transfer → Prop) (m : Movement) :
    (recordTransfer m).Ensures mem post d ↔
      ∀ now : Memory, post (now.createTransfer d m).2.1 (now.createTransfer d m).2.2 := Iff.rfl

theorem ensures_recordEntry (post : Draft → Entry → Prop) (id : Id) (n : Int64) :
    (recordEntry id n).Ensures mem post d ↔
      ∀ now : Memory, post (now.createEntry d id n).2.1 (now.createEntry d id n).2.2 := Iff.rfl

/-- An addition that succeeds has found the account, and neither sum has left its range. -/
theorem ensures_add {post : Draft → Account → Prop} {id : Id} {n : Int64}
    (h : ∀ a pending balance, mem.books.account? id = some a →
      Amount.add? (d.deltas id) n = some pending → Amount.add? a.balance pending = some balance →
      post { (d.lock id).setDelta id pending with log := d.log ++ [.add id n] }
        { a with balance := balance }) :
    (add id n).Ensures mem post d := by
  have deltas : (d.lock id).deltas = d.deltas := by unfold Draft.lock; split <;> rfl
  have log : (d.lock id).log = d.log := by unfold Draft.lock; split <;> rfl
  refine ⟨fun _ => trivial, ?_⟩
  unfold Memory.addBalance
  split
  · trivial
  · next a ha =>
    split
    · trivial
    · next pending hpending =>
      split
      · trivial
      · next balance hbalance =>
        rw [deltas] at hpending
        simpa only [Ensures, log] using h a pending balance ha hpending hbalance

end Work

/-! ### From the unit of work to its process -/

theorem Memory.addBalance_congr {mem mem' : Memory} {id : Id}
    (h : mem'.books.account? id = mem.books.account? id) (d : Draft) (n : Int64) :
    mem'.addBalance d id n = mem.addBalance d id n := by
  unfold addBalance
  rw [h]

/-- What is left of the unit of work of a process ensures `post`, whatever becomes of the rows that
the process has not locked. -/
def Process.Assured (post : Memory → Draft → α → Prop) (now : Memory) : Process α → Prop
  | .ready work => ∀ mem, work.Ensures mem (post mem) .empty
  | .active d work => ∀ mem, Respects d.held now mem → work.Ensures mem (post mem) d
  | .locking d id n next => ∀ mem, Respects d.held now mem →
    (Work.addBalance id n next).Ensures mem (post mem) d
  | .updating d id n next => ∀ mem, Respects d.held now mem →
    (next (mem.addBalance d id n).2).Ensures mem (post mem) (mem.addBalance d id n).1
  | .finished _ | .dropped => True

namespace Process

variable {post : Memory → Draft → α → Prop}

theorem Move.assured {isFree : Id → Bool} {mem mem' : Memory} {p p' : Process α}
    (hp : p.Lawful mem) (move : p.Move isFree mem mem' p') (h : p.Assured post mem) :
    p'.Assured post mem' := by
  cases move with
  | refused | committed | rolledBack => trivial
  | started => exact fun later _ => h later
  | transfer =>
    intro later respects
    exact h later ((Respects.of_books_eq (Memory.books_createTransfer mem _ _)).trans respects) mem
  | entry =>
    intro later respects
    exact h later ((Respects.of_books_eq (Memory.books_createEntry mem _ _ _)).trans respects) mem
  | failed tripped =>
    intro later respects
    exact (h later ((Respects.of_books_eq (Memory.books_of_trip? tripped)).trans respects)).1 _
  | absent =>
    intro later respects
    exact (h later respects).1 _
  | again _ _ locked =>
    intro later respects
    have same : Draft.lock _ _ = _ := if_pos locked
    exact same ▸ (h later respects).2
  | asked => exact h
  | locked =>
    intro later respects
    -- With one more row locked there are fewer books to be prepared for.
    have new : Draft.lock _ _ = _ := if_neg hp.2.2
    exact new ▸ (h later (respects.mono fun _ => List.mem_cons_of_mem _)).2
  | updated =>
    intro later respects
    rw [Memory.held_addBalance] at respects
    have frozen := respects.frozen _ hp.2
    have same := h later respects
    rwa [Memory.addBalance_congr frozen] at same

/-- An assurance is kept by all that happens to a process and around it. -/
theorem stable_assured : Stable (Process.Assured post) where
  moved := fun hp move h => move.assured hp h
  respects {mem mem' p} respects h := by
    cases p with
    | ready | finished | dropped => exact h
    | active d work => exact fun later later' => h later (respects.trans later')
    | locking d id n next => exact fun later later' => h later (respects.trans later')
    | updating d id n next => exact fun later later' => h later (respects.trans later')
  dropped _ := trivial

/-- A process that is about to commit has kept its assurance. -/
theorem Assured.of_done {mem : Memory} {d : Draft} {x : α}
    (h : Process.Assured post mem (.active d (.done (.ok x)))) : post mem d x :=
  h mem (.refl d.held mem)

end Process

end Teller.Ledger
