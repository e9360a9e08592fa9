import Teller.Ledger.Concurrent

/-!
# Moves of a process

The steps of a process as a relation with one rule for each kind of step, so that an invariant is
proved by one case analysis and not by one for each function that takes part in a step. Below it,
what a step of the whole ledger does, and how what one step keeps is kept by a run.
-/

namespace Teller.Ledger

variable {α : Type}

/-! ### What the operations of the memory leave alone -/

namespace Memory

theorem books_of_trip? {mem mem' : Memory} {f : Fault} (h : mem.trip? f = some mem') :
    mem'.books = mem.books := by
  unfold trip? at h
  split at h
  · cases h; rfl
  · cases h

@[simp] theorem books_createTransfer (mem : Memory) (d : Draft) (m : Movement) :
    (mem.createTransfer d m).1.books = mem.books := rfl

@[simp] theorem books_createEntry (mem : Memory) (d : Draft) (id : Id) (n : Int64) :
    (mem.createEntry d id n).1.books = mem.books := rfl

@[simp] theorem books_rollback (mem : Memory) : mem.rollback.1.books = mem.books := by
  unfold rollback
  split
  · next h => exact books_of_trip? h
  · rfl

end Memory

/-! ### One step of a process -/

/-- One rule for each kind of step: `p` becomes `p'` while the memory becomes `mem'`. -/
inductive Process.Move (isFree : Id → Bool) (mem : Memory) :
    Process α → Memory → Process α → Prop where
  | refused {work mem'} (tripped : mem.trip? .start = some mem') :
      Move isFree mem (.ready work) mem' (.finished (.error (Memory.refused "begin refused")))
  | started {work} (untripped : mem.trip? .start = none) :
      Move isFree mem (.ready work) mem (.active .empty work)
  | committed {d x} :
      Move isFree mem (.active d (.done (.ok x))) (mem.commit d) (.finished (.ok x))
  | rolledBack {d e} :
      Move isFree mem (.active d (.done (.error e))) mem.rollback.1
        (.finished (.error (failureAfter e mem.rollback.2)))
  | transfer {d m next} :
      Move isFree mem (.active d (.createTransfer m next)) (mem.createTransfer d m).1
        (.active (mem.createTransfer d m).2.1 (next (.ok (mem.createTransfer d m).2.2)))
  | entry {d id n next} :
      Move isFree mem (.active d (.createEntry id n next)) (mem.createEntry d id n).1
        (.active (mem.createEntry d id n).2.1 (next (.ok (mem.createEntry d id n).2.2)))
  | failed {d id n next mem'} (tripped : mem.trip? (.balance id) = some mem') :
      Move isFree mem (.active d (.addBalance id n next)) mem' (.active d
        (next (.error (Memory.refused s!"injected failure on account {id}"))))
  | absent {d id n next} (untripped : mem.trip? (.balance id) = none)
      (unknown : mem.books.account? id = none) :
      Move isFree mem (.active d (.addBalance id n next)) mem
        (.active d (next (.error (.database .rowNotFound))))
  | again {d id n next} (untripped : mem.trip? (.balance id) = none)
      (known : (mem.books.account? id).isSome) (locked : id ∈ d.held) :
      Move isFree mem (.active d (.addBalance id n next)) mem (.updating d id n next)
  | asked {d id n next} (untripped : mem.trip? (.balance id) = none)
      (known : (mem.books.account? id).isSome) (unlocked : id ∉ d.held) :
      Move isFree mem (.active d (.addBalance id n next)) mem (.locking d id n next)
  | locked {d id n next} (free : isFree id = true) :
      Move isFree mem (.locking d id n next) mem
        (.updating { d with held := id :: d.held } id n next)
  | updated {d id n next} :
      Move isFree mem (.updating d id n next) mem
        (.active (mem.addBalance d id n).1 (next (mem.addBalance d id n).2))

theorem Process.move_of_advance? {isFree : Id → Bool} {mem mem' : Memory} {p p' : Process α}
    (h : p.advance? isFree mem = some (mem', p')) : p.Move isFree mem mem' p' := by
  cases p with
  | ready work =>
    simp only [advance?] at h
    split at h <;> cases h
    · exact .refused ‹_›
    · exact .started ‹_›
  | active d work =>
    cases work with
    | done result =>
      cases result with
      | ok x => cases h; exact .committed
      | error e => cases h; exact .rolledBack
    | createTransfer m next => cases h; exact .transfer
    | createEntry id n next => cases h; exact .entry
    | addBalance id n next =>
      simp only [advance?] at h
      split at h
      · cases h; exact .failed ‹_›
      · split at h
        · cases h; exact .absent ‹_› (by simpa using ‹(mem.books.account? id).isNone›)
        · have known : (mem.books.account? id).isSome := by
            simpa [Option.isSome_iff_ne_none] using ‹¬(mem.books.account? id).isNone›
          split at h <;> cases h
          · exact .again ‹_› known ‹_›
          · exact .asked ‹_› known ‹_›
  | locking d id n next =>
    simp only [advance?] at h
    split at h <;> cases h
    exact .locked ‹_›
  | updating d id n next => cases h; exact .updated
  | finished result => cases h
  | dropped => cases h

/-- Only a commit changes the books. -/
theorem Process.Move.books_eq {isFree : Id → Bool} {mem mem' : Memory} {p p' : Process α}
    (move : p.Move isFree mem mem' p') (h : ∀ x, p' ≠ .finished (.ok x)) :
    mem'.books = mem.books := by
  cases move with
  | refused tripped => exact Memory.books_of_trip? tripped
  | failed tripped => exact Memory.books_of_trip? tripped
  | committed => exact absurd rfl (h _)
  | rolledBack => exact Memory.books_rollback mem
  | transfer => rfl
  | entry => rfl
  | started | absent | again | asked | locked | updated => rfl

/-- A cut ends a process that waits or adds, and no other. -/
theorem Process.cut?_eq_some {p p' : Process α} (h : p.cut? = some p') : p' = .dropped := by
  cases p <;> cases h <;> rfl

/-- A process that has ended does not move again. -/
theorem Process.Move.not_over {isFree : Id → Bool} {mem mem' : Memory} {p p' : Process α}
    (move : p.Move isFree mem mem' p') : p.isOver = false := by
  cases move <;> rfl

/-! ### Processes by their numbers -/

theorem getElem?_set_of_some {β : Type} {l : List β} {i : Nat} {x : β} (h : l[i]? = some x)
    (y : β) : (l.set i y)[i]? = some y := by
  obtain ⟨lt, -⟩ := List.getElem?_eq_some_iff.1 h
  exact List.getElem?_set_self lt

theorem getElem?_concat_cases {β : Type} {l : List β} {i : Nat} {x y : β}
    (h : (l ++ [y])[i]? = some x) : l[i]? = some x ∨ (i = l.length ∧ x = y) := by
  rw [List.getElem?_append] at h
  split at h
  · exact .inl h
  · obtain ⟨lt, rfl⟩ := List.getElem?_eq_some_iff.1 h
    rw [List.length_singleton] at lt
    exact .inr ⟨by omega, List.getElem_singleton lt⟩

/-! ### One step of the ledger -/

namespace State

theorem advance?_eq_some {s s' : State α} {i : Nat} (h : s.advance? i = some s') :
    ∃ p mem' p', s.processes[i]? = some p ∧ p.Move s.isFree s.memory mem' p' ∧
      s' = ⟨mem', s.processes.set i p'⟩ := by
  simp only [advance?, Option.bind_eq_bind, Option.bind_eq_some_iff] at h
  obtain ⟨p, hp, ⟨mem', p'⟩, hadv, hs⟩ := h
  cases hs
  exact ⟨p, mem', p', hp, Process.move_of_advance? hadv, rfl⟩

theorem cut?_eq_some {s s' : State α} {i : Nat} (h : s.cut? i = some s') :
    ∃ p, s.processes[i]? = some p ∧ p.isOver = false ∧
      s' = { s with processes := s.processes.set i .dropped } := by
  simp only [cut?, Option.bind_eq_bind, Option.bind_eq_some_iff] at h
  obtain ⟨p, hp, p', hcut, hs⟩ := h
  cases hs
  have live : p.isOver = false := by cases p <;> cases hcut <;> rfl
  exact ⟨p, hp, live, by rw [Process.cut?_eq_some hcut]⟩

/-- No step takes a process away. -/
theorem length_le_of_step? {s s' : State α} {e : Event α} (h : s.step? e = some s') :
    s.processes.length ≤ s'.processes.length := by
  cases e with
  | spawn work =>
    cases h
    rw [List.length_append]
    exact Nat.le_add_right _ _
  | advance j =>
    obtain ⟨p, mem', p', -, -, rfl⟩ := advance?_eq_some h
    exact Nat.le_of_eq List.length_set.symm
  | cut j =>
    obtain ⟨p, -, -, rfl⟩ := cut?_eq_some h
    exact Nat.le_of_eq List.length_set.symm
  | insertAccount | plant | setClock =>
    cases h
    exact Nat.le_refl _

/-- What each step keeps, each run keeps. -/
theorem run?_keeps (Inv : State α → Prop) (ok : Event α → Prop)
    (step : ∀ s e s', ok e → Inv s → s.step? e = some s' → Inv s') :
    ∀ {es : List (Event α)} {s s' : State α}, (∀ e ∈ es, ok e) → Inv s →
      s.run? es = some s' → Inv s'
  | [], s, s', _, hs, h => by
    cases h; exact hs
  | e :: es, s, s', hok, hs, h => by
    obtain ⟨mid, hmid, hrest⟩ := Option.bind_eq_some_iff.1 h
    exact run?_keeps Inv ok step (fun e' he' => hok e' (List.mem_cons_of_mem e he'))
      (step s e mid (hok e List.mem_cons_self) hs hmid) hrest

end State

end Teller.Ledger
