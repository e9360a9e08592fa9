import Teller.Proofs.Store.Records

/-!
# Pages of records

The accounts of an owner are listed by their numbers, so many at a time after skipping so many.
Pages of one size are counted from 0; up to the first empty one they have every account once.
-/

namespace Teller.Store

open Database

/-! ### Pages of a list -/

section

variable {α : Type} {l : List α} {n : Nat}

/-- The page of a list with a number, where each page has so many elements. -/
def nthPage (l : List α) (n k : Nat) : List α := (l.drop (k * n)).take n

theorem nthPage_eq_nil_iff (pos : 0 < n) {k : Nat} : nthPage l n k = [] ↔ l.length ≤ k * n := by
  simp [nthPage, List.take_eq_nil_iff, Nat.ne_of_gt pos]

/-- The first pages are the first elements. -/
theorem flatMap_nthPage (l : List α) (n count : Nat) :
    (List.range count).flatMap (nthPage l n) = l.take (count * n) := by
  induction count with
  | zero => simp
  | succ count ih =>
    rw [List.range_succ, List.flatMap_append, ih, Nat.succ_mul, List.take_add]
    simp [nthPage]

/-- The pages up to the first empty one have the whole list, in order. -/
theorem exists_first_empty (l : List α) (pos : 0 < n) : ∃ count,
    (∀ k < count, nthPage l n k ≠ []) ∧ nthPage l n count = [] ∧
      (List.range count).flatMap (nthPage l n) = l ∧ count * n < l.length + n := by
  have below := Nat.div_mul_le_self (l.length + n - 1) n
  have above := Nat.lt_div_mul_add pos (a := l.length + n - 1)
  generalize (l.length + n - 1) / n = count at below above
  have enough : l.length ≤ count * n := by omega
  refine ⟨count, fun k earlier empty => ?_, (nthPage_eq_nil_iff pos).2 enough, ?_, by omega⟩
  · have next : (k + 1) * n ≤ count * n := Nat.mul_le_mul_right n earlier
    rw [Nat.succ_mul] at next
    have := (nthPage_eq_nil_iff pos).1 empty
    omega
  · rw [flatMap_nthPage, List.take_of_length_le enough]

end

/-! ### Accounts in the order of their numbers -/

/-- The accounts of an owner in the order of their numbers. -/
def Tables.ownedBy (tables : Tables) (owner : String) : List Account :=
  ((tables .accounts).filter fun a => a.owner = owner).mergeSort fun a b => a.id ≤ b.id

theorem Tables.ownedBy_perm (tables : Tables) (owner : String) :
    (tables.ownedBy owner).Perm ((tables .accounts).filter fun a => a.owner = owner) :=
  List.mergeSort_perm _ _

variable {db : Database} {tables : Tables}

theorem Database.Holds.ascending (h : db.Holds tables) (owner : String) :
    (tables.ownedBy owner).Pairwise fun a b => a.id < b.id := by
  have sorted : (tables.ownedBy owner).Pairwise fun a b => decide (a.id ≤ b.id) :=
    List.pairwise_mergeSort (by simpa using fun a b c => Int.le_trans)
      (by simpa using fun a b => Int.le_total _ _) _
  have keys : ((tables .accounts).map Table.accounts.key).Pairwise (· ≠ ·) := h.distinct .accounts
  have distinct : (tables.ownedBy owner).Pairwise fun a b => a.id ≠ b.id :=
    ((tables.ownedBy_perm owner).pairwise_iff Ne.symm).2 <|
      ((List.pairwise_map.1 keys).filter _).imp fun ne same => ne (congrArg Value.integer same)
  exact (sorted.and distinct).imp fun h => Int.lt_iff_le_and_ne.2 ⟨of_decide_eq_true h.1, h.2⟩

/-! ### The statement -/

theorem forall₂_reads_iff {t : Table} {records : List t.Record} {rows : List Row} :
    List.Forall₂ t.Reads records rows ↔ rows.map t.recordOf = records.map .ok := by
  rw [← List.forall₂_eq_eq_eq, List.forall₂_map_left_iff, List.forall₂_map_right_iff]
  exact ⟨fun h => List.Forall₂.flip (R := flip t.Reads) h, fun h => h.flip⟩

/-- The order of what is read as accounts. -/
def readLe : Except Cause Account → Except Cause Account → Bool
  | .ok a, .ok b => a.id ≤ b.id
  | _, _ => true

/-- The rows of accounts are sorted as the accounts are. -/
theorem reads_mergeSort {accounts : List Account} {rows : List Row}
    (h : List.Forall₂ Table.accounts.Reads accounts rows) :
    List.Forall₂ Table.accounts.Reads (accounts.mergeSort fun a b => a.id ≤ b.id)
      (rows.mergeSort serialLe) := by
  have order : ∀ row ∈ rows, ∀ other ∈ rows,
      serialLe row other =
        readLe (Table.accounts.recordOf row) (Table.accounts.recordOf other) := by
    intro row mem other mem'
    obtain ⟨a, -, reads⟩ := exists_of_mem_right h mem
    obtain ⟨b, -, reads'⟩ := exists_of_mem_right h mem'
    have told : Table.accounts.recordOf row = .ok a := reads
    have told' : Table.accounts.recordOf other = .ok b := reads'
    rw [told, told', serialLe, (Account.ofCells_eq_ok_iff.1 reads).1,
      (Account.ofCells_eq_ok_iff.1 reads').1]
    rfl
  rw [forall₂_reads_iff] at h ⊢
  rw [List.map_mergeSort order, h]
  exact (List.map_mergeSort (f := Except.ok) fun _ _ _ _ => rfl).symm

theorem mapM_readRow {t : Table} {records : List t.Record} {rows : List Row}
    (h : List.Forall₂ t.Reads records rows) :
    (rows.map (project t.columns)).mapM (readRow t.columns t.read) = .ok records := by
  induction h with
  | nil => rfl
  | @cons a row records rows reads _ ih =>
    have told : t.read (t.columns.zip (project t.columns row)) = .ok a := reads
    rw [List.map_cons, List.mapM_cons, ih, readRow, told]
    rfl

/-- The accounts that a reply has. -/
def Reply.accounts (reply : Reply) : Except Error (List Account) := do
  (← reply.rows?).mapM (readRow Account.columns Account.ofCells)

/-- The accounts of an owner are asked for by how many and how many are skipped. -/
theorem Database.Holds.execute_accountsOf (h : db.Holds tables) (owner : String)
    (limit skipped : Nat) : ∃ reply,
      db.execute [.text owner, .integer limit, .integer skipped] .accountsOf = (reply, db) ∧
        reply.accounts = .ok (((tables.ownedBy owner).drop skipped).take limit) := by
  let matching := (db.rows .accounts).filter fun row => row .owner = .text owner
  have owned : List.Forall₂ Table.accounts.Reads
      ((tables .accounts).filter fun a => a.owner = owner) matching := by
    refine List.rel_filter (fun {a row} reads => ?_) (h.rows .accounts)
    simp [(Account.ofCells_eq_ok_iff.1 reads).2.1]
  have meant (row : Row) : [(Column.owner, 1)].any
      (satisfies [.text owner, .integer limit, .integer skipped] row) =
        decide (row .owner = .text owner) := Bool.or_false _
  have taken : take [.text owner, .integer limit, .integer skipped] matching (.page 2 3) =
      some (((matching.mergeSort serialLe).drop skipped).take limit) := by
    have window : ¬((limit : Int) < 0 ∨ (skipped : Int) < 0) := by omega
    exact if_neg (t := none) window
  refine ⟨.rows ((((matching.mergeSort serialLe).drop skipped).take limit).map
    (project Account.columns)), ?_, ?_⟩
  · simp only [Statement.accountsOf, execute, select, meant]
    rw [taken]
  · exact mapM_readRow (List.forall₂_take _ (List.forall₂_drop _ (reads_mergeSort owned)))

end Teller.Store
