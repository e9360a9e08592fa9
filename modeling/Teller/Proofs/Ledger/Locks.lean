import Teller.Proofs.Ledger.Moves

/-!
# The discipline of the locks

No row is locked by two processes, and a process changes the balances of no rows but those it has
locked. So between two moves of a process the rows that it has locked stay as they are, whatever the
other processes do: that is `Respects`, and `Disciplined.fate` says it of every step.
-/

namespace Teller.Ledger

variable {α : Type}

/-! ### Looking up accounts -/

theorem Books.id_of_account? {books : Books} {id : Id} {a : Account}
    (h : books.account? id = some a) : a.id = id := by
  simpa using List.find?_some h

/-- A commit changes nothing of an account but its balance. -/
theorem Memory.account?_commit (mem : Memory) (d : Draft) (id : Id) :
    (mem.commit d).books.account? id =
      (mem.books.account? id).map fun a => { a with balance := a.balance + d.deltas a.id } := by
  simp only [commit, Books.account?, List.find?_map]
  rfl

/-- A commit leaves an account as it is whose balance the draft adds nothing to. -/
theorem Memory.account?_commit_of_zero {mem : Memory} {d : Draft} {id : Id}
    (zero : d.deltas id = 0) : (mem.commit d).books.account? id = mem.books.account? id := by
  rw [account?_commit]
  cases ha : mem.books.account? id with
  | none => rfl
  | some a =>
    rw [← Books.id_of_account? ha] at zero
    simp only [Option.map_some, zero, Int64.add_zero]

/-- An account that is there is found as before when another one is opened. -/
theorem Memory.account?_insertAccount {mem : Memory} {id : Id}
    (h : (mem.books.account? id).isSome) (owner currency : String) (balance : Int64) :
    (mem.insertAccount owner currency balance).books.account? id = mem.books.account? id := by
  obtain ⟨a, ha⟩ := Option.isSome_iff_exists.1 h
  rw [ha]
  simp only [Books.account?] at ha
  simp only [insertAccount, Books.account?, List.find?_append, ha]
  rfl

/-! ### What others may do to the books -/

/-- What others may do to the books while a process has the rows `held` locked. -/
structure Respects (held : List Id) (before after : Memory) : Prop where
  frozen : ∀ id ∈ held, after.books.account? id = before.books.account? id
  lasting : ∀ id, (before.books.account? id).isSome → (after.books.account? id).isSome

namespace Respects

theorem of_books_eq {held : List Id} {before after : Memory} (h : after.books = before.books) :
    Respects held before after := by
  constructor <;> rw [h]
  · exact fun _ _ => rfl
  · exact fun _ h => h

theorem refl (held : List Id) (mem : Memory) : Respects held mem mem := of_books_eq rfl

theorem trans {held : List Id} {mem₁ mem₂ mem₃ : Memory} (h : Respects held mem₁ mem₂)
    (h' : Respects held mem₂ mem₃) : Respects held mem₁ mem₃ where
  frozen id hid := (h'.frozen id hid).trans (h.frozen id hid)
  lasting id hid := h'.lasting id (h.lasting id hid)

theorem mono {held held' : List Id} {before after : Memory} (h : Respects held before after)
    (sub : ∀ id ∈ held', id ∈ held) : Respects held' before after where
  frozen id hid := h.frozen id (sub id hid)
  lasting := h.lasting

theorem of_insertAccount {held : List Id} {mem : Memory}
    (known : ∀ id ∈ held, (mem.books.account? id).isSome) (owner currency : String)
    (balance : Int64) : Respects held mem (mem.insertAccount owner currency balance) where
  frozen id hid := Memory.account?_insertAccount (known id hid) owner currency balance
  lasting id h := by rwa [Memory.account?_insertAccount h]

end Respects

/-! ### What a process keeps to -/

/-- A draft adds only to balances whose rows it has locked, and every balance can take what the
draft adds to it. -/
structure Draft.Lawful (mem : Memory) (d : Draft) : Prop where
  covered : ∀ id, id ∉ d.held → d.deltas id = 0
  known : ∀ id ∈ d.held, (mem.books.account? id).isSome
  fits : ∀ id ∈ d.held, ∀ a, mem.books.account? id = some a →
    (Amount.add? a.balance (d.deltas id)).isSome

/-- A process has a lawful draft, waits only for rows that are there, and adds only to balances
whose rows it has locked. -/
def Process.Lawful (mem : Memory) : Process α → Prop
  | .active d _ => d.Lawful mem
  | .locking d id _ _ => d.Lawful mem ∧ (mem.books.account? id).isSome ∧ id ∉ d.held
  | .updating d id _ _ => d.Lawful mem ∧ id ∈ d.held
  | .ready _ | .finished _ | .dropped => True

namespace Draft.Lawful

variable {mem mem' : Memory} {d : Draft}

theorem empty : Draft.empty.Lawful mem where
  covered _ _ := rfl
  known _ h := absurd h List.not_mem_nil
  fits _ h := absurd h List.not_mem_nil

theorem respects (h : Respects d.held mem mem') (hd : d.Lawful mem) : d.Lawful mem' where
  covered := hd.covered
  known id hid := by rw [h.frozen id hid]; exact hd.known id hid
  fits id hid := by rw [h.frozen id hid]; exact hd.fits id hid

/-- Every balance can take what the draft adds to it, also one whose row it has not locked. -/
theorem add?_isSome (hd : d.Lawful mem) {id : Id} {a : Account}
    (ha : mem.books.account? id = some a) : (Amount.add? a.balance (d.deltas id)).isSome := by
  by_cases held : id ∈ d.held
  · exact hd.fits id held a ha
  · have zero : d.deltas id = 0 := hd.covered id held
    have sum : Amount.add? a.balance (d.deltas id) = some a.balance := by
      rw [Amount.add?_eq_some_iff, zero]; simp
    rw [sum]; rfl

/-- A draft that has written nothing to a balance can lock its row. -/
theorem lock (hd : d.Lawful mem) {id : Id} (known : (mem.books.account? id).isSome) :
    Draft.Lawful mem { d with held := id :: d.held } where
  covered i hi := hd.covered i fun h => hi (List.mem_cons_of_mem id h)
  known i hi := by
    rcases List.mem_cons.1 hi with rfl | hi
    · exact known
    · exact hd.known i hi
  fits _ _ _ ha := hd.add?_isSome ha

/-- Adding to the balance of a locked row keeps a draft lawful, also if the sum is refused. -/
theorem addBalance (hd : d.Lawful mem) {id : Id} (locked : id ∈ d.held) (n : Int64) :
    Draft.Lawful mem (mem.addBalance d id n).1 := by
  unfold Memory.addBalance
  split
  · exact hd
  · next a ha =>
    split
    · exact hd
    · next pending _ =>
      split
      · exact hd
      · next balance sum =>
        refine ⟨fun i hi => ?_, hd.known, fun i hi b hb => ?_⟩
        · have ne : i ≠ id := fun h => hi (h ▸ locked)
          simpa only [Draft.setDelta, if_neg ne] using hd.covered i hi
        · simp only [Draft.setDelta]
          split
          · next same =>
            subst same
            rw [ha] at hb
            cases hb
            rw [sum]; rfl
          · exact hd.fits i hi b hb

end Draft.Lawful

theorem Memory.held_addBalance (mem : Memory) (d : Draft) (id : Id) (n : Int64) :
    (mem.addBalance d id n).1.held = d.held := by
  unfold addBalance
  split
  · rfl
  · split
    · rfl
    · split <;> rfl

namespace Process

/-- A move keeps a process lawful. -/
theorem Move.lawful {isFree : Id → Bool} {mem mem' : Memory} {p p' : Process α}
    (move : p.Move isFree mem mem' p') (hp : p.Lawful mem) : p'.Lawful mem' := by
  cases move with
  | refused | committed | rolledBack => trivial
  | started => exact Draft.Lawful.empty
  | transfer => exact Draft.Lawful.mk hp.covered hp.known hp.fits
  | entry => exact Draft.Lawful.mk hp.covered hp.known hp.fits
  | failed tripped => exact hp.respects (.of_books_eq (Memory.books_of_trip? tripped))
  | absent => exact hp
  | again _ _ locked => exact ⟨hp, locked⟩
  | asked _ known unlocked => exact ⟨hp, known, unlocked⟩
  | locked => exact ⟨hp.1.lock hp.2.1, List.mem_cons_self⟩
  | updated => exact hp.1.addBalance hp.2 _

/-- Whatever others may do keeps a process lawful. -/
theorem Lawful.respects {mem mem' : Memory} {p : Process α} (h : Respects p.held mem mem')
    (hp : p.Lawful mem) : p.Lawful mem' := by
  cases p with
  | ready | finished | dropped => trivial
  | active d work => exact Draft.Lawful.respects h hp
  | locking d id n next => exact ⟨hp.1.respects h, h.lasting id hp.2.1, hp.2.2⟩
  | updating d id n next => exact ⟨hp.1.respects h, hp.2⟩

/-- The rows that a process has locked are there. -/
theorem Lawful.known {mem : Memory} {p : Process α} (hp : p.Lawful mem) :
    ∀ id ∈ p.held, (mem.books.account? id).isSome := by
  cases p with
  | ready | finished | dropped => exact fun _ h => absurd h List.not_mem_nil
  | active d work => exact Draft.Lawful.known hp
  | locking d id n next => exact hp.1.known
  | updating d id n next => exact hp.1.known

/-- A move of a process respects the rows that others have locked. -/
theorem Move.respects {isFree : Id → Bool} {mem mem' : Memory} {p p' : Process α}
    (move : p.Move isFree mem mem' p') (hp : p.Lawful mem) {held : List Id}
    (apart : ∀ id ∈ held, id ∉ p.held) : Respects held mem mem' := by
  cases move with
  | committed =>
    next d x =>
    refine ⟨fun id hid => ?_, fun id h => ?_⟩
    · exact Memory.account?_commit_of_zero (hp.covered id (apart id hid))
    · simpa [Memory.account?_commit] using h
  | refused tripped => exact .of_books_eq (Memory.books_of_trip? tripped)
  | failed tripped => exact .of_books_eq (Memory.books_of_trip? tripped)
  | rolledBack => exact .of_books_eq (Memory.books_rollback mem)
  | transfer => exact .of_books_eq rfl
  | entry => exact .of_books_eq rfl
  | started | absent | again | asked | locked | updated => exact .of_books_eq rfl

/-- A move locks no row but one that is free. -/
theorem Move.held {isFree : Id → Bool} {mem mem' : Memory} {p p' : Process α}
    (move : p.Move isFree mem mem' p') : ∀ id ∈ p'.held, id ∈ p.held ∨ isFree id = true := by
  cases move with
  | locked free =>
    intro i hi
    rcases List.mem_cons.1 hi with rfl | hi
    · exact .inr free
    · exact .inl hi
  | updated =>
    intro i hi
    exact .inl (by simpa only [Process.held, draft?, Option.map_some, Option.getD_some,
      Memory.held_addBalance] using hi)
  | refused | started | committed | rolledBack => exact fun _ h => absurd h List.not_mem_nil
  | transfer | entry | failed | absent | again | asked => exact fun _ h => .inl h

end Process

/-- A property of a process that its own moves keep, and whatever others may do meanwhile. -/
structure Stable (I : Memory → Process α → Prop) : Prop where
  moved : ∀ {isFree mem mem' p p'}, p.Lawful mem → p.Move isFree mem mem' p' →
    I mem p → I mem' p'
  respects : ∀ {mem mem' p}, Respects p.held mem mem' → I mem p → I mem' p
  dropped : ∀ mem, I mem .dropped

/-! ### The whole ledger -/

/-- Every process is lawful, and no row is locked by two processes. -/
structure State.Disciplined (s : State α) : Prop where
  lawful : ∀ (i : Nat) (p : Process α), s.processes[i]? = some p → p.Lawful s.memory
  apart : ∀ (i j : Nat) (p q : Process α), i ≠ j → s.processes[i]? = some p →
    s.processes[j]? = some q → ∀ id ∈ p.held, id ∉ q.held

namespace State

theorem not_held_of_isFree {s : State α} {id : Id} (h : s.isFree id = true) {i : Nat}
    {p : Process α} (hp : s.processes[i]? = some p) : id ∉ p.held := by
  have free := List.all_eq_true.1 h p (List.mem_of_getElem? hp)
  simpa using free

/-- Processes that have not begun hold no rows. -/
theorem Disciplined.of_ready {s : State α} (h : ∀ p ∈ s.processes, ∃ work, p = .ready work) :
    s.Disciplined where
  lawful i p hp := by
    obtain ⟨work, rfl⟩ := h p (List.mem_of_getElem? hp)
    trivial
  apart i j p q _ hp _ id hid := by
    obtain ⟨work, rfl⟩ := h p (List.mem_of_getElem? hp)
    exact absurd hid List.not_mem_nil

/-- What has become of a process in a step, seen from the step: it has been left alone, has moved,
was cut off, or has just been spawned. -/
inductive Fate (s : State α) (mem' : Memory) (e : Event α) (i : Nat) (p' : Process α) : Prop where
  | alone (same : s.processes[i]? = some p') (respects : Respects p'.held s.memory mem')
  | moved (p : Process α) (before : s.processes[i]? = some p)
      (move : p.Move s.isFree s.memory mem' p')
  | dropped (gone : p' = .dropped)
  | spawned (work : Work α) (event : e = .spawn work) (last : i = s.processes.length)
      (fresh : p' = .ready work)

/-- Every step leaves every process to one of its fates. -/
theorem Disciplined.fate {s s' : State α} {e : Event α} (hs : s.Disciplined)
    (h : s.step? e = some s') {i : Nat} {p' : Process α} (hp' : s'.processes[i]? = some p') :
    Fate s s'.memory e i p' := by
  cases e with
  | spawn work =>
    cases h
    rcases getElem?_concat_cases hp' with hp' | ⟨last, rfl⟩
    · exact .alone hp' (.of_books_eq rfl)
    · exact .spawned work rfl last rfl
  | advance j =>
    obtain ⟨p, mem', q, hp, move, rfl⟩ := advance?_eq_some h
    by_cases ne : j = i
    · subst ne
      rw [getElem?_set_of_some hp, Option.some.injEq] at hp'
      subst hp'
      exact .moved p hp move
    · rw [List.getElem?_set_ne ne] at hp'
      exact .alone hp' (move.respects (hs.lawful j p hp) (hs.apart i j p' p (Ne.symm ne) hp' hp))
  | cut j =>
    obtain ⟨p, hp, -, rfl⟩ := cut?_eq_some h
    by_cases ne : j = i
    · subst ne
      rw [getElem?_set_of_some hp, Option.some.injEq] at hp'
      exact .dropped hp'.symm
    · rw [List.getElem?_set_ne ne] at hp'
      exact .alone hp' (.of_books_eq rfl)
  | insertAccount owner currency balance =>
    cases h
    exact .alone hp' (.of_insertAccount (hs.lawful i p' hp').known owner currency balance)
  | plant f => cases h; exact .alone hp' (.of_books_eq rfl)
  | setClock t => cases h; exact .alone hp' (.of_books_eq rfl)

/-- A process that takes the place of another one, with no rows but those it had and free ones,
shares no row with the rest. -/
theorem Disciplined.apart_set {s : State α} (hs : s.Disciplined) {i : Nat} {p p' : Process α}
    (hp : s.processes[i]? = some p) (held : ∀ id ∈ p'.held, id ∈ p.held ∨ s.isFree id = true)
    {j k : Nat} {q r : Process α} (ne : j ≠ k) (hq : (s.processes.set i p')[j]? = some q)
    (hr : (s.processes.set i p')[k]? = some r) : ∀ id ∈ q.held, id ∉ r.held := by
  have new : ∀ l t, l ≠ i → s.processes[l]? = some t → ∀ id ∈ p'.held, id ∉ t.held := by
    intro l t nl ht id hid
    rcases held id hid with hid | free
    · exact hs.apart i l p t (Ne.symm nl) hp ht id hid
    · exact not_held_of_isFree free ht
  by_cases hj : i = j
  · subst hj
    rw [getElem?_set_of_some hp, Option.some.injEq] at hq
    rw [List.getElem?_set_ne ne] at hr
    subst hq
    exact new k r (Ne.symm ne) hr
  · rw [List.getElem?_set_ne hj] at hq
    by_cases hk : i = k
    · subst hk
      rw [getElem?_set_of_some hp, Option.some.injEq] at hr
      subst hr
      exact fun id hid hid' => new j q ne hq id hid' hid
    · rw [List.getElem?_set_ne hk] at hr
      exact hs.apart j k q r ne hq hr

/-- Every step keeps the discipline. -/
theorem Disciplined.step {s s' : State α} {e : Event α} (hs : s.Disciplined)
    (h : s.step? e = some s') : s'.Disciplined where
  lawful i p' hp' := by
    cases hs.fate h hp' with
    | alone same respects => exact (hs.lawful i p' same).respects respects
    | moved p before move => exact move.lawful (hs.lawful i p before)
    | dropped gone => subst gone; trivial
    | spawned work _ _ fresh => subst fresh; trivial
  apart j k q r ne hq hr := by
    cases e with
    | spawn work =>
      cases h
      rcases getElem?_concat_cases hq with hq | ⟨-, rfl⟩
      · rcases getElem?_concat_cases hr with hr | ⟨-, rfl⟩
        · exact hs.apart j k q r ne hq hr
        · exact fun _ _ => List.not_mem_nil
      · exact fun _ hid => absurd hid List.not_mem_nil
    | advance i =>
      obtain ⟨p, mem', p', hp, move, rfl⟩ := advance?_eq_some h
      exact hs.apart_set hp move.held ne hq hr
    | cut i =>
      obtain ⟨p, hp, -, rfl⟩ := cut?_eq_some h
      exact hs.apart_set hp (fun _ hid => absurd hid List.not_mem_nil) ne hq hr
    | insertAccount owner currency balance => cases h; exact hs.apart j k q r ne hq hr
    | plant f => cases h; exact hs.apart j k q r ne hq hr
    | setClock t => cases h; exact hs.apart j k q r ne hq hr

/-- A step keeps what is stable of every process. -/
theorem Disciplined.keeps {I : Nat → Memory → Process α → Prop} (stable : ∀ i, Stable (I i))
    {s s' : State α} {e : Event α} (hs : s.Disciplined)
    (hI : ∀ i p, s.processes[i]? = some p → I i s.memory p)
    (spawned : ∀ work, e = .spawn work → I s.processes.length s'.memory (.ready work))
    (h : s.step? e = some s') : ∀ i p, s'.processes[i]? = some p → I i s'.memory p := by
  intro i p' hp'
  cases hs.fate h hp' with
  | alone same respects => exact (stable i).respects respects (hI i p' same)
  | moved p before move => exact (stable i).moved (hs.lawful i p before) move (hI i p before)
  | dropped gone => exact gone ▸ (stable i).dropped s'.memory
  | spawned work event last fresh => exact last ▸ fresh ▸ spawned work event

end State

end Teller.Ledger
