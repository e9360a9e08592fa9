import Mathlib.Data.List.Nodup
import Teller.Proofs.Ledger.Commits

/-!
# Rows that are given

Every unit of work is given numbered rows while it goes on. A number is given once, and the books
keep the rows of the units of work that have succeeded and no others, whatever happens meanwhile.
-/

namespace Teller.Ledger

variable {α : Type}

/-- A row that a unit of work writes. -/
inductive Record where
  | transfer (row : Transfer)
  | entry (row : Entry)
deriving DecidableEq

namespace Record

/-- The transfer, if the record is one. -/
def transfer? : Record → Option Transfer
  | .transfer row => some row
  | .entry _ => none

def entry? : Record → Option Entry
  | .transfer _ => none
  | .entry row => some row

/-- Transfers and entries, as records. -/
def ofRows (transfers : List Transfer) (entries : List Entry) : List Record :=
  transfers.map .transfer ++ entries.map .entry

theorem filterMap_transfer?_ofRows (transfers : List Transfer) (entries : List Entry) :
    (ofRows transfers entries).filterMap transfer? = transfers := by
  simp [ofRows, List.filterMap_map, Function.comp_def, transfer?]

theorem filterMap_entry?_ofRows (transfers : List Transfer) (entries : List Entry) :
    (ofRows transfers entries).filterMap entry? = entries := by
  simp [ofRows, List.filterMap_map, Function.comp_def, entry?]

/-- Rows of two drafts together, up to their order. -/
theorem ofRows_append (transfers transfers' : List Transfer) (entries entries' : List Entry) :
    (ofRows (transfers ++ transfers') (entries ++ entries')).Perm
      (ofRows transfers entries ++ ofRows transfers' entries') := by
  simp only [ofRows, List.map_append, List.append_assoc]
  refine .append_left _ ?_
  rw [← List.append_assoc, ← List.append_assoc]
  exact .append_right _ List.perm_append_comm

end Record

/-- The rows that the draft would add. -/
def Draft.records (d : Draft) : List Record := Record.ofRows d.transfers d.entries

/-- The rows that the books keep. -/
def Books.records (books : Books) : List Record := Record.ofRows books.transfers books.entries

/-! ### What is given to a process -/

namespace Process

/-- What a process has written, as long as it goes on. -/
def records (p : Process α) : List Record := (p.draft?.map Draft.records).getD []

/-- The row that a process is given in its next step, if it writes one. -/
def given? (mem : Memory) : Process α → Option Record
  | .active d (.createTransfer m _) => some (.transfer (mem.createTransfer d m).2.2)
  | .active d (.createEntry id n _) => some (.entry (mem.createEntry d id n).2.2)
  | _ => none

/-- The value that a process has ended with. -/
def value? : Process α → Option α
  | .finished (.ok x) => some x
  | _ => none

variable {isFree : Id → Bool} {mem mem' : Memory} {p p' : Process α}

theorem value?_eq_some_iff {x : α} : p.value? = some x ↔ p = .finished (.ok x) := by
  constructor
  · intro h
    cases p with
    | finished result =>
      cases result <;> cases h
      rfl
    | ready | active | locking | updating | dropped => cases h
  · rintro rfl
    rfl

/-- A process that is given a row has not succeeded yet. -/
theorem value?_of_given? {r : Record} (h : p.given? mem = some r) : p.value? = none := by
  cases p <;> first | rfl | cases h

theorem records_updated (d : Draft) (id : Id) (n : Int64) :
    (mem.addBalance d id n).1.records = d.records := by
  unfold Memory.addBalance
  split
  · rfl
  · split
    · rfl
    · split <;> rfl

/-- A process that goes on has what it had, and what it is given. -/
theorem Move.records (move : p.Move isFree mem mem' p') (live : p'.isOver = false) :
    p'.records.Perm (p.records ++ (p.given? mem).toList) := by
  cases move with
  | refused | committed | rolledBack => cases live
  | transfer =>
    next d m next =>
    have grown := Record.ofRows_append d.transfers [(mem.createTransfer d m).2.2] d.entries []
    rwa [List.append_nil] at grown
  | entry =>
    next d id n next =>
    have grown := Record.ofRows_append d.transfers [] d.entries [(mem.createEntry d id n).2.2]
    rwa [List.append_nil] at grown
  | updated =>
    next d id n next =>
    change (mem.addBalance d id n).1.records.Perm (d.records ++ [])
    rw [records_updated, List.append_nil]
  | started | failed | absent | again | asked | locked => exact .of_eq (List.append_nil _).symm

end Process

/-! ### What is given in a run -/

namespace State

/-- The row that is given at an event, with the number of the process that gets it. -/
def given? (s : State α) : Event α → Option (Nat × Record)
  | .advance i => (s.processes[i]?.bind (Process.given? s.memory)).map (Prod.mk i)
  | _ => none

/-- The rows that are given in a run, in order, each with the number of the process that gets it. -/
def given (s : State α) : List (Event α) → List (Nat × Record)
  | [] => []
  | e :: rest =>
    match s.step? e with
    | none => []
    | some s' => (s.given? e).toList ++ s'.given rest

/-- What process `i` has come to succeed with. -/
def value? (s : State α) (i : Nat) : Option α := s.processes[i]?.bind Process.value?

variable {s s' : State α} {e : Event α}

/-- The rows of a run are those of its first step and then those of the rest. -/
theorem given_cons {es : List (Event α)} (h : s.step? e = some s') :
    s.given (e :: es) = (s.given? e).toList ++ s'.given es := by
  rw [given, h]

theorem value?_eq_some_iff {i : Nat} {x : α} : s.value? i = some x ↔ s.Succeeded i x := by
  rw [value?, Option.bind_eq_some_iff, Succeeded]
  constructor
  · rintro ⟨p, hp, value⟩
    rw [hp, Process.value?_eq_some_iff.1 value]
  · exact fun h => ⟨_, h, rfl⟩

theorem value?_of_given? {i : Nat} {r : Record} (h : s.given? e = some (i, r)) :
    s.value? i = none := by
  cases e with
  | advance j =>
    obtain ⟨r, given, same⟩ := Option.map_eq_some_iff.1 h
    cases same
    obtain ⟨p, hp, given⟩ := Option.bind_eq_some_iff.1 given
    rw [value?, hp]
    exact Process.value?_of_given? given
  | spawn | cut | insertAccount | plant | setClock => cases h

end State

/-- The given rows of one kind. -/
def rowsIn {ρ : Type} (row? : Record → Option ρ) (given : List (Nat × Record)) : List (Nat × ρ) :=
  given.filterMap fun (i, r) => (row? r).map (Prod.mk i)

theorem map_snd_rowsIn {ρ : Type} (row? : Record → Option ρ) (given : List (Nat × Record)) :
    (rowsIn row? given).map Prod.snd = (given.map Prod.snd).filterMap row? := by
  rw [rowsIn, List.map_filterMap, List.filterMap_map]
  congr 1
  funext ⟨i, r⟩
  cases h : row? r <;> simp [h]

/-- The transfers among records, each with its process. -/
def transfersIn : List (Nat × Record) → List (Nat × Transfer) := rowsIn Record.transfer?

def entriesIn : List (Nat × Record) → List (Nat × Entry) := rowsIn Record.entry?

/-- The rows among the given ones that one process was given. -/
def recordsOf (given : List (Nat × Record)) (i : Nat) : List Record :=
  (given.filter fun x => x.1 = i).map Prod.snd

theorem recordsOf_append (given more : List (Nat × Record)) (i : Nat) :
    recordsOf (given ++ more) i = recordsOf given i ++ recordsOf more i := by
  rw [recordsOf, List.filter_append, List.map_append]
  rfl

theorem recordsOf_self (i : Nat) (r : Option Record) :
    recordsOf (r.map (Prod.mk i)).toList i = r.toList := by
  cases r <;> simp [recordsOf]

theorem recordsOf_other {i j : Nat} (ne : j ≠ i) (r : Option Record) :
    recordsOf (r.map (Prod.mk j)).toList i = [] := by
  cases r <;> simp [recordsOf, ne]

/-- The given rows of the processes that `p` says, with those of one process more. -/
theorem perm_filter_or {given : List (Nat × Record)} {p : Nat → Bool} {i : Nat} (new : p i = false) :
    ((given.filter fun x => p x.1 || x.1 = i).map Prod.snd).Perm
      ((given.filter fun x => p x.1).map Prod.snd ++ recordsOf given i) := by
  rw [recordsOf, ← List.map_append]
  refine .map _ ?_
  induction given with
  | nil => exact .nil
  | cons x given ih =>
    by_cases same : x.1 = i
    · have out : p x.1 = false := same ▸ new
      simpa [same, out, new] using (ih.cons x).trans List.perm_middle.symm
    · cases h : p x.1 <;> simp [same, h, ih]

/-! ### Numbers -/

/-- The numbers from one on, so many of them. -/
def numbers (n : Nat) : List Id := (List.range' 1 n).map Int.ofNat

theorem numbers_succ (n : Nat) : numbers (n + 1) = numbers n ++ [(n : Int) + 1] := by
  rw [numbers, List.range'_concat, List.map_append]
  simp [numbers, Int.add_comm]

/-- No number is given twice. -/
theorem nodup_numbers (n : Nat) : (numbers n).Nodup :=
  List.Nodup.map (fun _ _ => Int.ofNat.inj) List.nodup_range'

/-- The given rows have the numbers from one up to the last one given, each of them once and in
order. -/
structure Memory.Numbers (given : List (Nat × Record)) (mem : Memory) : Prop where
  transfers : (transfersIn given).map (fun x => x.2.id) = numbers mem.lastTransfer
  entries : (entriesIn given).map (fun x => x.2.id) = numbers mem.lastEntry

namespace Memory.Numbers

variable {given : List (Nat × Record)} {mem mem' : Memory}

theorem of_eq (h : mem.Numbers given) (transfers : mem'.lastTransfer = mem.lastTransfer)
    (entries : mem'.lastEntry = mem.lastEntry) : mem'.Numbers given := by
  constructor
  · rw [transfers]; exact h.transfers
  · rw [entries]; exact h.entries

theorem of_trip? {f : Fault} (h : mem.Numbers given) (tripped : mem.trip? f = some mem') :
    mem'.Numbers given := by
  unfold trip? at tripped
  split at tripped
  · cases tripped
    exact h.of_eq rfl rfl
  · cases tripped

theorem rollback (h : mem.Numbers given) : mem.rollback.1.Numbers given := by
  unfold Memory.rollback
  split
  · next tripped => exact h.of_trip? tripped
  · exact h.of_eq rfl rfl

theorem createTransfer (h : mem.Numbers given) (i : Nat) (d : Draft) (m : Movement) :
    (mem.createTransfer d m).1.Numbers
      (given ++ [(i, .transfer (mem.createTransfer d m).2.2)]) where
  transfers := by
    rw [transfersIn, rowsIn, List.filterMap_append, List.map_append]
    exact (congrArg (· ++ [_]) h.transfers).trans (numbers_succ _).symm
  entries := by
    rw [entriesIn, rowsIn, List.filterMap_append]
    exact (congrArg (List.map _) (List.append_nil _)).trans h.entries

theorem createEntry (h : mem.Numbers given) (i : Nat) (d : Draft) (id : Id) (n : Int64) :
    (mem.createEntry d id n).1.Numbers
      (given ++ [(i, .entry (mem.createEntry d id n).2.2)]) where
  transfers := by
    rw [transfersIn, rowsIn, List.filterMap_append]
    exact (congrArg (List.map _) (List.append_nil _)).trans h.transfers
  entries := by
    rw [entriesIn, rowsIn, List.filterMap_append, List.map_append]
    exact (congrArg (· ++ [_]) h.entries).trans (numbers_succ _).symm

end Memory.Numbers

/-- A move gives at most one row, under the number that is next. -/
theorem Process.Move.numbers {isFree : Id → Bool} {mem mem' : Memory} {p p' : Process α}
    {given : List (Nat × Record)} (move : p.Move isFree mem mem' p') (h : mem.Numbers given)
    (i : Nat) : mem'.Numbers (given ++ ((p.given? mem).map (Prod.mk i)).toList) := by
  cases move with
  | transfer => exact h.createTransfer i _ _
  | entry => exact h.createEntry i _ _ _
  | refused tripped => exact (List.append_nil given).symm ▸ h.of_trip? tripped
  | failed tripped => exact (List.append_nil given).symm ▸ h.of_trip? tripped
  | rolledBack => exact (List.append_nil given).symm ▸ h.rollback
  | started | committed | absent | again | asked | locked | updated =>
    exact (List.append_nil given).symm ▸ h.of_eq rfl rfl

/-! ### Steps -/

/-- The given rows, seen from a state. A process that goes on has those that it was given, a process
that is not there has been given none, and the books have those of the processes that have
succeeded. -/
structure State.Recorded (given : List (Nat × Record)) (s : State α) : Prop where
  numbered : s.memory.Numbers given
  drafted : ∀ (i : Nat) p, s.processes[i]? = some p → p.isOver = false →
    p.records.Perm (recordsOf given i)
  unborn : ∀ i, s.processes.length ≤ i → recordsOf given i = []
  kept : s.memory.books.records.Perm
    ((given.filter fun x => (s.value? x.1).isSome).map Prod.snd)

/-- A commit keeps the rows of its draft, and all that were kept before. -/
theorem Memory.records_commit (mem : Memory) (d : Draft) :
    (mem.commit d).books.records.Perm (mem.books.records ++ d.records) :=
  Record.ofRows_append _ _ _ _

namespace State

variable {s s' : State α} {e : Event α} {given : List (Nat × Record)}

theorem given?_advance {i : Nat} {p : Process α} (hp : s.processes[i]? = some p) :
    s.given? (.advance i) = (p.given? s.memory).map (Prod.mk i) := by
  rw [given?, hp, Option.bind_some]

theorem given?_of_committing? {i : Nat} (h : s.committing? e = some i) : s.given? e = none := by
  cases e with
  | advance j =>
    simp only [committing?] at h
    split at h
    · next d x hp =>
      rw [given?_advance hp]
      rfl
    · cases h
  | spawn | cut | insertAccount | plant | setClock => rfl

/-- After a commit, one process more has succeeded. -/
theorem isSome_value?_commit {i : Nat} {p : Process α} {mem : Memory} {x : α}
    (hp : s.processes[i]? = some p) (j : Nat) :
    (State.value? ⟨mem, s.processes.set i (.finished (.ok x))⟩ j).isSome =
      ((s.value? j).isSome || j = i) := by
  unfold value?
  by_cases same : j = i
  · subst same
    rw [getElem?_set_of_some hp, decide_eq_true rfl, Bool.or_true]
    rfl
  · rw [List.getElem?_set_ne (Ne.symm same), decide_eq_false same, Bool.or_false]

theorem value?_eq (same : ∀ i x, s'.Succeeded i x ↔ s.Succeeded i x) (i : Nat) :
    s'.value? i = s.value? i := by
  refine Option.ext fun x => ?_
  rw [value?_eq_some_iff, value?_eq_some_iff, same]

namespace Recorded

theorem numbered_step (hs : s.Recorded given) (h : s.step? e = some s') :
    s'.memory.Numbers (given ++ (s.given? e).toList) := by
  cases e with
  | advance i =>
    obtain ⟨p, mem', p', hp, move, rfl⟩ := advance?_eq_some h
    rw [given?_advance hp]
    exact move.numbers hs.numbered i
  | cut i =>
    obtain ⟨p, -, -, rfl⟩ := cut?_eq_some h
    exact (List.append_nil given).symm ▸ hs.numbered
  | spawn | insertAccount | plant | setClock =>
    cases h
    exact (List.append_nil given).symm ▸ hs.numbered.of_eq rfl rfl

/-- The draft of a process that is not over has the rows that the process was given. -/
theorem drafted_step (hs : s.Recorded given) (h : s.step? e = some s') (i : Nat) (p' : Process α)
    (hp' : s'.processes[i]? = some p') (live : p'.isOver = false) :
    p'.records.Perm (recordsOf (given ++ (s.given? e).toList) i) := by
  cases e with
  | spawn work =>
    cases h
    refine (List.append_nil given).symm ▸ ?_
    rcases getElem?_concat_cases hp' with hp' | ⟨rfl, rfl⟩
    · exact hs.drafted i p' hp' live
    · exact (hs.unborn _ (Nat.le_refl _)).symm ▸ .nil
  | advance j =>
    obtain ⟨p, mem', q, hp, move, rfl⟩ := advance?_eq_some h
    rw [given?_advance hp, recordsOf_append]
    by_cases same : j = i
    · subst same
      rw [getElem?_set_of_some hp, Option.some.injEq] at hp'
      subst hp'
      rw [recordsOf_self]
      exact (move.records live).trans (.append_right _ (hs.drafted j p hp move.not_over))
    · rw [List.getElem?_set_ne same] at hp'
      rw [recordsOf_other same, List.append_nil]
      exact hs.drafted i p' hp' live
  | cut j =>
    obtain ⟨p, hp, -, rfl⟩ := cut?_eq_some h
    refine (List.append_nil given).symm ▸ ?_
    by_cases same : j = i
    · subst same
      rw [getElem?_set_of_some hp, Option.some.injEq] at hp'
      subst hp'
      cases live
    · rw [List.getElem?_set_ne same] at hp'
      exact hs.drafted i p' hp' live
  | insertAccount | plant | setClock =>
    cases h
    exact (List.append_nil given).symm ▸ hs.drafted i p' hp' live

/-- A process that is yet to come has been given nothing. -/
theorem unborn_step (hs : s.Recorded given) (h : s.step? e = some s') (i : Nat)
    (out : s'.processes.length ≤ i) : recordsOf (given ++ (s.given? e).toList) i = [] := by
  have before : s.processes.length ≤ i := Nat.le_trans (length_le_of_step? h) out
  rw [recordsOf_append, hs.unborn i before, List.nil_append]
  cases e with
  | advance j =>
    obtain ⟨p, mem', q, hp, move, rfl⟩ := advance?_eq_some h
    obtain ⟨lt, -⟩ := List.getElem?_eq_some_iff.1 hp
    rw [given?_advance hp, recordsOf_other (by omega)]
  | spawn | cut | insertAccount | plant | setClock => rfl

/-- The books keep the rows of the processes that have succeeded. -/
theorem kept_step (hs : s.Recorded given) (h : s.step? e = some s') :
    s'.memory.books.records.Perm (((given ++ (s.given? e).toList).filter fun x =>
      (s'.value? x.1).isSome).map Prod.snd) := by
  cases effect h with
  | @commit i d x before event =>
    have new : (s.value? i).isSome = false := by
      rw [value?, before]
      rfl
    rw [given?_of_committing? event, Option.toList_none, List.append_nil]
    simp only [isSome_value?_commit before]
    refine (Memory.records_commit s.memory d).trans ?_
    exact (hs.kept.append (hs.drafted i _ before rfl)).trans
      (perm_filter_or (p := fun j => (s.value? j).isSome) new).symm
  | opening event =>
    subst event
    exact (List.append_nil given).symm ▸ hs.kept
  | quiet books same =>
    have later : ((s.given? e).toList.filter fun x => (s.value? x.1).isSome) = [] := by
      refine List.filter_eq_nil_iff.2 fun x hx => ?_
      obtain ⟨i, r⟩ := x
      rw [value?_of_given? (Option.mem_toList.1 hx)]
      exact Bool.false_ne_true
    simp only [value?_eq same]
    rw [books, List.filter_append, later, List.append_nil]
    exact hs.kept

theorem step (hs : s.Recorded given) (h : s.step? e = some s') :
    s'.Recorded (given ++ (s.given? e).toList) where
  numbered := hs.numbered_step h
  drafted := hs.drafted_step h
  unborn := hs.unborn_step h
  kept := hs.kept_step h

/-- What a run gives comes after what was given before. -/
theorem run {es : List (Event α)} (hs : s.Recorded given) (h : s.run? es = some s') :
    s'.Recorded (given ++ s.given es) := by
  induction es generalizing s given with
  | nil =>
    cases h
    exact (List.append_nil given).symm ▸ hs
  | cons e es ih =>
    obtain ⟨mid, hmid, hrest⟩ := Option.bind_eq_some_iff.1 h
    rw [given_cons hmid, ← List.append_assoc]
    exact ih (hs.step hmid) hrest

/-- Before anything has begun, nothing is given. -/
theorem of_ready {clock : Timestamp} (fresh : s.memory = .empty clock)
    (ready : ∀ p ∈ s.processes, ∃ work, p = .ready work) : s.Recorded [] where
  numbered := by
    rw [fresh]
    exact ⟨rfl, rfl⟩
  drafted i p hp _ := by
    obtain ⟨work, rfl⟩ := ready p (List.mem_of_getElem? hp)
    exact .nil
  unborn _ _ := rfl
  kept := by
    rw [fresh]
    exact .nil

/-- The rows of one kind in the books are numbered apart, and none of them has the number of a row
that was given to a process that has not succeeded. -/
theorem rows_apart {ρ : Type} {row? : Record → Option ρ} {id : ρ → Id} {n : Nat} {rows : List ρ}
    (hs : s.Recorded given) (numbered : (rowsIn row? given).map (fun x => id x.2) = numbers n)
    (booked : s.memory.books.records.filterMap row? = rows) :
    (∀ i, (∀ x, ¬s.Succeeded i x) → ∀ row, (i, row) ∈ rowsIn row? given → id row ∉ rows.map id) ∧
      (rows.map id).Nodup := by
  have nodup : ((rowsIn row? given).map fun x => id x.2).Nodup := numbered ▸ nodup_numbers n
  have kept := hs.kept.filterMap row?
  rw [booked, ← map_snd_rowsIn] at kept
  constructor
  · intro i not row own found
    obtain ⟨row', among, same⟩ := List.mem_map.1 found
    obtain ⟨⟨j, _⟩, received, rfl⟩ := List.mem_map.1 (kept.subset among)
    obtain ⟨⟨k, r⟩, received, read⟩ := List.mem_filterMap.1 received
    obtain ⟨received, succeeded⟩ := List.mem_filter.1 received
    -- Two given rows with one number are the same one, so `i` itself has succeeded.
    have both := List.inj_on_of_nodup_map nodup own (List.mem_filterMap.2 ⟨_, received, read⟩)
      same.symm
    obtain ⟨_, -, read⟩ := Option.map_eq_some_iff.1 read
    obtain rfl : i = k := (congrArg Prod.fst both).trans (congrArg Prod.fst read).symm
    obtain ⟨x, hx⟩ := Option.isSome_iff_exists.1 succeeded
    exact not x (value?_eq_some_iff.1 hx)
  · refine ((kept.map id).nodup_iff).2 ?_
    rw [List.map_map]
    exact nodup.sublist (.map _ (.filterMap _ List.filter_sublist))

end Recorded

end State

end Teller.Ledger
