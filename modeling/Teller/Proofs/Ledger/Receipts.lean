import Teller.Proofs.Ledger.Calls
import Teller.Proofs.Ledger.Records

/-!
# No record lost, doubled or made up

However transfers run side by side, the books keep the rows that the callers of those that have
succeeded were told of, and no others. Whatever became of the rest, what they wrote is gone, and
nobody gets their numbers again.
-/

namespace Teller.Ledger

variable {α : Type}

/-- The rows that a receipt tells of. -/
def Receipt.records (r : Receipt) : List Record := Record.ofRows [r.transfer] [r.debit, r.credit]

/-- What the units of work that have succeeded came to, by the number of the process. -/
def State.values (s : State α) : List α := s.processes.filterMap Process.value?

/-! ### Values by their processes -/

/-- One more of a list is chosen when it takes the place of one that was not. -/
theorem filterMap_set_perm {β γ : Type} {f : β → Option γ} {l : List β} {i : Nat} {x y : β}
    (hx : l[i]? = some x) (before : f x = none) :
    ((l.set i y).filterMap f).Perm (l.filterMap f ++ (f y).toList) := by
  induction l generalizing i with
  | nil => cases hx
  | cons z l ih =>
    cases i with
    | zero =>
      cases hx
      rw [List.set_cons_zero, List.filterMap_cons_none before]
      cases hy : f y with
      | none => rw [List.filterMap_cons_none hy]; exact .of_eq (List.append_nil _).symm
      | some c => rw [List.filterMap_cons_some hy]; exact (List.perm_append_singleton c _).symm
    | succ i =>
      rw [List.set_cons_succ]
      cases hz : f z with
      | none => rw [List.filterMap_cons_none hz, List.filterMap_cons_none hz]; exact ih hx
      | some c => rw [List.filterMap_cons_some hz, List.filterMap_cons_some hz]; exact (ih hx).cons c

/-- The same is chosen of two lists if the same is chosen at every place. -/
theorem filterMap_eq_of_getElem? {β γ : Type} {f : β → Option γ} {l l' : List β}
    (same : ∀ i : Nat, l[i]?.bind f = l'[i]?.bind f) : l.filterMap f = l'.filterMap f := by
  induction l generalizing l' with
  | nil =>
    refine (List.filterMap_eq_nil_iff.2 fun x hx => ?_).symm
    obtain ⟨i, hi⟩ := List.getElem?_of_mem hx
    exact (congrArg (Option.bind · f) hi).symm.trans (same i).symm
  | cons x l ih =>
    cases l' with
    | nil =>
      refine List.filterMap_eq_nil_iff.2 fun y hy => ?_
      obtain ⟨i, hi⟩ := List.getElem?_of_mem hy
      exact (congrArg (Option.bind · f) hi).symm.trans (same i)
    | cons y l' =>
      have first : f x = f y := same 0
      have rest := ih fun i => same (i + 1)
      rw [List.filterMap_cons, List.filterMap_cons, first, rest]

/-! ### Receipts -/

namespace Underway

variable {calls : List Movement} {s s' : State Receipt} {e : Event Receipt}

/-- The books go on having the rows that the receipts tell of. -/
theorem told_step (hs : Underway calls s)
    (told : s.memory.books.records.Perm (s.values.flatMap Receipt.records))
    (h : s.step? e = some s') :
    s'.memory.books.records.Perm (s'.values.flatMap Receipt.records) := by
  cases State.effect h with
  | @commit i d r before event =>
    obtain ⟨m, -, settles⟩ := hs.settles before
    have written : d.records = r.records := by
      rw [Draft.records, settles.transfers, settles.entries]
      rfl
    have values : (State.values ⟨s.memory.commit d, s.processes.set i (.finished (.ok r))⟩).Perm
        (s.values ++ [r]) := filterMap_set_perm before rfl
    refine (Memory.records_commit s.memory d).trans (.trans ?_ (values.flatMap_right _).symm)
    rw [written, List.flatMap_append, List.flatMap_singleton]
    exact told.append_right _
  | opening event =>
    subst event
    exact told
  | quiet books same =>
    have values : s'.values = s.values :=
      filterMap_eq_of_getElem? fun i => State.value?_eq same i
    rw [books, values]
    exact told

theorem told_run {es : List (Event Receipt)} (hs : Underway calls s)
    (closed : ∀ e ∈ es, e.isSpawn = false)
    (told : s.memory.books.records.Perm (s.values.flatMap Receipt.records))
    (h : s.run? es = some s') :
    s'.memory.books.records.Perm (s'.values.flatMap Receipt.records) :=
  (State.run?_keeps
    (fun s => Underway calls s ∧ s.memory.books.records.Perm (s.values.flatMap Receipt.records))
    (fun e => e.isSpawn = false)
    (fun _ _ _ closed hs h => ⟨hs.1.step closed h, hs.1.told_step hs.2 h⟩) closed ⟨hs, told⟩ h).2

end Underway

theorem State.values_ofCalls (mem : Memory) (calls : List Movement) :
    (State.ofCalls mem calls).values = [] := by
  refine List.filterMap_eq_nil_iff.2 fun p hp => ?_
  obtain ⟨m, -, rfl⟩ := List.mem_map.1 hp
  rfl

/-- However transfers run side by side, whatever fails and whoever is cut off: the transfers in the
books are those that the callers were told of, and so are the entries; a process that has not
succeeded has left none of the rows that it was given; no two rows in the books have one number; and
the numbers are given in order and once each, to whatever becomes of those that get them. -/
theorem no_record_lost (clock : Timestamp) (calls : List Movement) (es : List (Event Receipt))
    (s : State Receipt) (closed : ∀ e ∈ es, e.isSpawn = false)
    (h : (State.ofCalls (.empty clock) calls).run? es = some s) :
    let books := s.memory.books
    let given := (State.ofCalls (.empty clock) calls).given es
    (books.transfers.Perm (s.values.map Receipt.transfer) ∧
      books.entries.Perm (s.values.flatMap fun r => [r.debit, r.credit])) ∧
    (∀ i, (∀ r, ¬s.Succeeded i r) →
      (∀ row, (i, row) ∈ transfersIn given → row.id ∉ books.transfers.map Transfer.id) ∧
      ∀ row, (i, row) ∈ entriesIn given → row.id ∉ books.entries.map Entry.id) ∧
    ((books.transfers.map Transfer.id).Nodup ∧ (books.entries.map Entry.id).Nodup) ∧
    (transfersIn given).map (fun x => x.2.id) = numbers s.memory.lastTransfer ∧
    (entriesIn given).map (fun x => x.2.id) = numbers s.memory.lastEntry := by
  intro books given
  have ready : ∀ p ∈ (State.ofCalls (.empty clock) calls).processes, ∃ work, p = .ready work := by
    intro p hp
    obtain ⟨m, -, rfl⟩ := List.mem_map.1 hp
    exact ⟨_, rfl⟩
  have recorded : s.Recorded given := (State.Recorded.of_ready rfl ready).run h
  have told : books.records.Perm (s.values.flatMap Receipt.records) := by
    refine (Underway.ofCalls _ calls).told_run closed ?_ h
    rw [State.values_ofCalls]
    exact .nil
  have transfers := told.filterMap Record.transfer?
  have entries := told.filterMap Record.entry?
  have booked_transfers := Record.filterMap_transfer?_ofRows books.transfers books.entries
  have booked_entries := Record.filterMap_entry?_ofRows books.transfers books.entries
  rw [Books.records, booked_transfers, List.filterMap_flatMap] at transfers
  rw [Books.records, booked_entries, List.filterMap_flatMap] at entries
  obtain ⟨gone_transfers, apart_transfers⟩ :=
    recorded.rows_apart recorded.numbered.transfers booked_transfers
  obtain ⟨gone_entries, apart_entries⟩ :=
    recorded.rows_apart recorded.numbered.entries booked_entries
  refine ⟨⟨?_, entries⟩, fun i not => ⟨gone_transfers i not, gone_entries i not⟩,
    ⟨apart_transfers, apart_entries⟩, recorded.numbered.transfers, recorded.numbered.entries⟩
  rwa [List.map_eq_flatMap]

/-- While one transfer goes through, another one finds that its target is missing, and a third is cut
off as it waits; each of them has been given numbers before. -/
def threeCalls : List Movement := [⟨1, 2, 30⟩, ⟨1, 9, 5⟩, ⟨2, 1, 7⟩]

/-- A run of three transfers: one is committed, one fails and one is cut off. -/
def oneGoesThrough : List (Event Receipt) :=
  [.insertAccount "ada" "USD" 100, .insertAccount "bob" "USD" 50] ++ List.replicate 2 (.advance 1) ++
    List.replicate 4 (.advance 0) ++ List.replicate 5 (.advance 2) ++ .cut 2 ::
    List.replicate 7 (.advance 1) ++ List.replicate 7 (.advance 0)

theorem no_record_lost_three : ∃ s,
    (State.ofCalls (.empty .epoch) threeCalls).run? oneGoesThrough = some s ∧
    s.memory.books.transfers.map Transfer.id = [2] ∧
    s.memory.books.transfers.Perm (s.values.map Receipt.transfer) ∧
    (1, (⟨1, 1, 9, 5, .epoch⟩ : Transfer)) ∈
      transfersIn ((State.ofCalls (.empty .epoch) threeCalls).given oneGoesThrough) ∧
    (1 : Id) ∉ s.memory.books.transfers.map Transfer.id ∧
    (s.memory.books.entries.map Entry.id).Nodup ∧
    (transfersIn ((State.ofCalls (.empty .epoch) threeCalls).given oneGoesThrough)).map
      (fun x => x.2.id) = numbers 3 := by
  have goes : (((State.ofCalls (.empty .epoch) threeCalls).run? oneGoesThrough).any fun s =>
      s.memory.lastTransfer = 3 ∧ (s.value? 1).isNone ∧
        s.memory.books.transfers.map Transfer.id = [2]) = true := by decide
  obtain ⟨s, hs, goes⟩ := (Option.any_eq_true _ _).1 goes
  obtain ⟨last, failed, transfers⟩ := of_decide_eq_true goes
  obtain ⟨⟨told, -⟩, gone, ⟨-, entries⟩, given, -⟩ :=
    no_record_lost .epoch threeCalls oneGoesThrough s (by decide) hs
  have refused : ∀ r, ¬s.Succeeded 1 r := fun r hr => by
    rw [State.value?_eq_some_iff.2 hr] at failed
    cases failed
  have got : (1, (⟨1, 1, 9, 5, .epoch⟩ : Transfer)) ∈
      transfersIn ((State.ofCalls (.empty .epoch) threeCalls).given oneGoesThrough) := by decide
  exact ⟨s, hs, transfers, told, got, (gone 1 refused).1 _ got, entries, last ▸ given⟩

end Teller.Ledger
