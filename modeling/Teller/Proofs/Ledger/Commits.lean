import Teller.Proofs.Ledger.Moves

/-!
# Commits

Which steps change the books: a commit, and the opening of an account. Every other step leaves them
alone, and with them the list of the units of work that have succeeded.
-/

namespace Teller.Ledger

variable {α : Type}

namespace State

/-- A process has ended with a value. -/
def Succeeded (s : State α) (i : Nat) (x : α) : Prop := s.processes[i]? = some (.finished (.ok x))

/-- The process that commits at an event, if one does. -/
def committing? (s : State α) : Event α → Option Nat
  | .advance i =>
    match s.processes[i]? with
    | some (.active _ (.done (.ok _))) => some i
    | _ => none
  | _ => none

/-- The processes that commit in a run, in the order in which they do. -/
def commitOrder (s : State α) : List (Event α) → List Nat
  | [] => []
  | e :: rest =>
    match s.step? e with
    | none => []
    | some s' => (s.committing? e).toList ++ s'.commitOrder rest

/-- What an event does to the books and to the units of work that have succeeded. -/
inductive Effect (s : State α) (e : Event α) : State α → Prop where
  | commit {i d x} (before : s.processes[i]? = some (.active d (.done (.ok x))))
      (event : s.committing? e = some i) :
      Effect s e ⟨s.memory.commit d, s.processes.set i (.finished (.ok x))⟩
  | opening {owner currency balance} (event : e = .insertAccount owner currency balance) :
      Effect s e { s with memory := s.memory.insertAccount owner currency balance }
  | quiet {s' : State α} (books : s'.memory.books = s.memory.books)
      (same : ∀ i x, s'.Succeeded i x ↔ s.Succeeded i x) (event : s.committing? e = none)
      (noOpening : ∀ owner currency balance, e ≠ .insertAccount owner currency balance) :
      Effect s e s'

theorem succeeded_set {s : State α} {i : Nat} {p p' : Process α} {mem : Memory}
    (hp : s.processes[i]? = some p) (before : ∀ x, p ≠ .finished (.ok x))
    (after : ∀ x, p' ≠ .finished (.ok x)) (j : Nat) (x : α) :
    Succeeded ⟨mem, s.processes.set i p'⟩ j x ↔ s.Succeeded j x := by
  unfold Succeeded
  by_cases ne : i = j
  · subst ne
    rw [getElem?_set_of_some hp, hp, Option.some.injEq, Option.some.injEq]
    exact ⟨fun h => absurd h (after x), fun h => absurd h (before x)⟩
  · rw [List.getElem?_set_ne ne]

theorem succeeded_spawn {s : State α} {work : Work α} (i : Nat) (x : α) :
    Succeeded { s with processes := s.processes ++ [.ready work] } i x ↔ s.Succeeded i x := by
  unfold Succeeded
  constructor
  · intro hx
    rcases getElem?_concat_cases hx with hx | ⟨-, hx⟩
    · exact hx
    · cases hx
  · intro hx
    obtain ⟨lt, -⟩ := List.getElem?_eq_some_iff.1 hx
    rwa [List.getElem?_append_left lt]

/-- A process that is not over has not succeeded. -/
theorem not_succeeded_of_live {p : Process α} (live : p.isOver = false) (x : α) :
    p ≠ .finished (.ok x) := by
  rintro rfl
  cases live

/-- A step of a process is a commit, or nothing of it is seen in the books. -/
theorem effect_advance {s s' : State α} {i : Nat} (h : s.step? (.advance i) = some s') :
    s.Effect (.advance i) s' := by
  obtain ⟨p, mem', p', hp, move, rfl⟩ := advance?_eq_some h
  by_cases ended : ∃ x, p' = .finished (.ok x)
  · obtain ⟨x, rfl⟩ := ended
    cases move
    exact .commit hp (by simp only [committing?, hp])
  · have after : ∀ x, p' ≠ .finished (.ok x) := fun x hx => ended ⟨x, hx⟩
    refine .quiet (move.books_eq after)
      (succeeded_set hp (not_succeeded_of_live move.not_over) after) ?_ (by simp)
    cases move with
    | committed => exact absurd rfl (after _)
    | refused | started | rolledBack | transfer | entry | failed | absent | again | asked | locked
    | updated => simp only [committing?, hp]

/-- Every event has one of the effects. -/
theorem effect {s s' : State α} {e : Event α} (h : s.step? e = some s') : s.Effect e s' := by
  cases e with
  | spawn work => cases h; exact .quiet rfl succeeded_spawn rfl (by simp)
  | advance i => exact effect_advance h
  | cut i =>
    obtain ⟨p, hp, live, rfl⟩ := cut?_eq_some h
    exact .quiet rfl (succeeded_set hp (not_succeeded_of_live live) nofun) rfl (by simp)
  | insertAccount owner currency balance => cases h; exact .opening rfl
  | plant f => cases h; exact .quiet rfl (fun _ _ => Iff.rfl) rfl (by simp)
  | setClock t => cases h; exact .quiet rfl (fun _ _ => Iff.rfl) rfl (by simp)

/-- A unit of work that has succeeded has succeeded for good. -/
theorem Succeeded.step {s s' : State α} {e : Event α} {i : Nat} {x : α} (hx : s.Succeeded i x)
    (h : s.step? e = some s') : s'.Succeeded i x := by
  cases effect h with
  | commit before event =>
    unfold Succeeded at hx ⊢
    rw [List.getElem?_set_ne, hx]
    rintro rfl
    rw [before] at hx
    cases hx
  | opening => exact hx
  | quiet _ same => exact (same i x).2 hx

theorem Succeeded.run {s s' : State α} {es : List (Event α)} {i : Nat} {x : α}
    (hx : s.Succeeded i x) (h : s.run? es = some s') : s'.Succeeded i x :=
  run?_keeps (fun s => s.Succeeded i x) (fun _ => True)
    (fun _ _ _ _ hx h => hx.step h) (fun _ _ => trivial) hx h

/-! ### The order of the commits -/

/-- The process of a commit has not succeeded before and has succeeded after it; of no other process
does a step change that. -/
theorem succeeded_step {s s' : State α} {e : Event α} (h : s.step? e = some s') (i : Nat) :
    (∃ x, s'.Succeeded i x) ↔ (∃ x, s.Succeeded i x) ∨ s.committing? e = some i := by
  cases effect h with
  | @commit j d x before event =>
    by_cases ne : j = i
    · subst ne
      exact ⟨fun _ => .inr event, fun _ => ⟨x, getElem?_set_of_some before _⟩⟩
    · rw [event, Option.some.injEq]
      unfold Succeeded
      rw [List.getElem?_set_ne ne]
      exact ⟨.inl, fun h => h.resolve_right ne⟩
  | opening event => subst event; exact ⟨.inl, fun h => h.resolve_right nofun⟩
  | quiet _ same event =>
    rw [event]
    refine ⟨fun ⟨x, hx⟩ => .inl ⟨x, (same i x).1 hx⟩, ?_⟩
    rintro (⟨x, hx⟩ | h)
    · exact ⟨x, (same i x).2 hx⟩
    · cases h

theorem not_succeeded_of_committing? {s : State α} {e : Event α} {i : Nat}
    (h : s.committing? e = some i) : ¬∃ x, s.Succeeded i x := by
  rintro ⟨x, hx⟩
  unfold committing? at h
  split at h
  · split at h
    · next d y hp =>
      cases h
      rw [Succeeded, hp] at hx
      cases hx
    · cases h
  · cases h

theorem commitOrder_cons {s s' : State α} {e : Event α} {es : List (Event α)}
    (h : s.step? e = some s') :
    s.commitOrder (e :: es) = (s.committing? e).toList ++ s'.commitOrder es := by
  rw [commitOrder, h]

/-- The commits of a run are those of the processes that have come to succeed in it. -/
theorem mem_commitOrder_iff {es : List (Event α)} {s s' : State α} (h : s.run? es = some s')
    (i : Nat) :
    i ∈ s.commitOrder es ↔ (∃ x, s'.Succeeded i x) ∧ ¬∃ x, s.Succeeded i x := by
  induction es generalizing s with
  | nil =>
    cases h
    exact ⟨fun h => absurd h List.not_mem_nil, fun h => absurd h.1 h.2⟩
  | cons e es ih =>
    obtain ⟨mid, hmid, hrest⟩ := Option.bind_eq_some_iff.1 h
    have now := succeeded_step hmid i
    have before : s.committing? e = some i → ¬∃ x, s.Succeeded i x := not_succeeded_of_committing?
    rw [commitOrder_cons hmid, List.mem_append, Option.mem_toList, ih hrest, now]
    constructor
    · rintro (first | ⟨after, not⟩)
      · obtain ⟨x, hx⟩ := now.2 (.inr first)
        exact ⟨⟨x, hx.run hrest⟩, before first⟩
      · exact ⟨after, fun h => not (.inl h)⟩
    · rintro ⟨after, not⟩
      by_cases first : s.committing? e = some i
      · exact .inl first
      · exact .inr ⟨after, fun h => h.elim not first⟩

/-- No process commits twice. -/
theorem nodup_commitOrder {es : List (Event α)} {s s' : State α} (h : s.run? es = some s') :
    (s.commitOrder es).Nodup := by
  induction es generalizing s with
  | nil => exact List.nodup_nil
  | cons e es ih =>
    obtain ⟨mid, hmid, hrest⟩ := Option.bind_eq_some_iff.1 h
    rw [commitOrder_cons hmid]
    cases event : s.committing? e with
    | none => exact ih hrest
    | some i =>
      refine List.nodup_cons.2 ⟨fun again => ?_, ih hrest⟩
      exact ((mem_commitOrder_iff hrest i).1 again).2 ((succeeded_step hmid i).2 (.inr event))

end State

end Teller.Ledger
