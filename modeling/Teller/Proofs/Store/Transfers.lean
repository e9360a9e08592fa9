import Teller.Proofs.Store.Tables

/-!
# Transfers in their tables

What the three statements of a transfer do to rows that can be read as accounts, transfers and
entries: an insertion adds one row under the next serial number, and an update changes one balance,
unless the sum is out of range. Instants are left aside: the database dates its rows by a clock of
its own.
-/

namespace Teller

open Store

/-! ### Rows -/

/-- A row with another balance. -/
def Store.withBalance (balance : Int64) (row : Row) : Row
  | .balance => .ofAmount balance
  | c => row c

/-- The row of an account, whenever it was opened. -/
structure Account.IsIn (a : Account) (row : Row) : Prop where
  id : row .id = .integer a.id
  owner : row .owner = .text a.owner
  currency : row .currency = .text a.currency
  balance : row .balance = .ofAmount a.balance
  createdAt : ∃ now, row .createdAt = .instant now

/-- The row of a transfer, whenever it was recorded. -/
structure Transfer.IsIn (t : Transfer) (row : Row) : Prop where
  id : row .id = .integer t.id
  source : row .fromAccountId = .integer t.source
  target : row .toAccountId = .integer t.target
  amount : row .amount = .ofAmount t.amount
  createdAt : ∃ now, row .createdAt = .instant now

/-- The row of an entry, whenever it was written. -/
structure Entry.IsIn (e : Entry) (row : Row) : Prop where
  id : row .id = .integer e.id
  account : row .accountId = .integer e.account
  amount : row .amount = .ofAmount e.amount
  createdAt : ∃ now, row .createdAt = .instant now

/-- The row of an account, dated as it is. -/
def Account.row (a : Account) : Row
  | .id => .integer a.id
  | .owner => .text a.owner
  | .currency => .text a.currency
  | .balance => .ofAmount a.balance
  | .createdAt => .instant a.createdAt
  | _ => .null

theorem Account.isIn_row (a : Account) : a.IsIn a.row := ⟨rfl, rfl, rfl, rfl, _, rfl⟩

/-- A database with these accounts and nothing else. -/
def Store.Database.holding (accounts : List Account) : Database :=
  { Database.empty .epoch with rows := fun
      | .accounts => accounts.map Account.row
      | _ => [] }

theorem Account.IsIn.read {a : Account} {row : Row} (h : a.IsIn row) :
    ∃ now, Account.ofCells (columns.zip (Database.project columns row)) =
      .ok { a with createdAt := now } := by
  obtain ⟨now, dated⟩ := h.createdAt
  exact ⟨now, ofCells_eq_ok_iff.2 ⟨h.id, h.owner, h.currency, h.balance, dated⟩⟩

theorem Account.IsIn.withBalance {a : Account} {row : Row} (h : a.IsIn row) (balance : Int64) :
    { a with balance := balance }.IsIn (Store.withBalance balance row) :=
  ⟨h.id, h.owner, h.currency, rfl, h.createdAt⟩

theorem Transfer.IsIn.read {t : Transfer} {row : Row} (h : t.IsIn row) :
    ∃ now, Transfer.ofCells (columns.zip (Database.project columns row)) =
      .ok { t with createdAt := now } := by
  obtain ⟨now, dated⟩ := h.createdAt
  exact ⟨now, ofCells_eq_ok_iff.2 ⟨h.id, h.source, h.target, h.amount, dated⟩⟩

theorem Entry.IsIn.read {e : Entry} {row : Row} (h : e.IsIn row) :
    ∃ now, Entry.ofCells (columns.zip (Database.project columns row)) =
      .ok { e with createdAt := now } := by
  obtain ⟨now, dated⟩ := h.createdAt
  exact ⟨now, ofCells_eq_ok_iff.2 ⟨h.id, h.account, h.amount, dated⟩⟩

theorem Transfer.IsIn.filled {t : Transfer} {row : Row} (h : t.IsIn row) :
    ∀ c ∈ Table.transfers.mandatory, row c ≠ .null := by
  obtain ⟨now, dated⟩ := h.createdAt
  have columns : Table.transfers.mandatory =
      [.id, .fromAccountId, .toAccountId, .amount, .createdAt] := rfl
  simp [columns, h.id, h.source, h.target, h.amount, dated, Value.ofAmount]

theorem Entry.IsIn.filled {e : Entry} {row : Row} (h : e.IsIn row) :
    ∀ c ∈ Table.entries.mandatory, row c ≠ .null := by
  obtain ⟨now, dated⟩ := h.createdAt
  have columns : Table.entries.mandatory = [.id, .accountId, .amount, .createdAt] := rfl
  simp [columns, h.id, h.account, h.amount, dated, Value.ofAmount]

namespace Store

variable {α : Type} {db : Database}

/-! ### What the statements do -/

/-- A statement that is answered with a row that can be read. -/
theorem ensures_of_row {s : Statement} {arguments : List Value} {read : Cells → Except Cause α}
    {post : Except Error α → Database → Prop} {row : List Value} {after : Database} {x : α}
    (executed : db.execute arguments s = (.rows [row], after))
    (told : read (s.answer.zip row) = .ok x) (h : post (.ok x) after) :
    (fetchFirst s arguments read).Ensures post db := by
  rw [ensures_fetchFirst, executed]
  change post ((read (s.answer.zip row)).mapError .database) after
  rw [told]
  exact h

namespace Database

theorem insert_of_accepted {t : Table} {values : List (Column × Parameter)} {answer : List Column}
    {arguments : List Value}
    (accepted : db.insertionRefused? t (db.newRow t values arguments) = none) :
    db.insert t values answer arguments = (.rows [project answer (db.newRow t values arguments)],
      (db.takeSerial t).setRows t (db.rows t ++ [db.newRow t values arguments])) := by
  simp only [insert, accepted]

/-- The identifier that a table gives next is on none of its rows. -/
def NextIsFree (db : Database) (t : Table) : Prop :=
  ∀ row ∈ db.rows t, row .id ≠ .integer (db.serials t + 1)

/-- An account with this identifier is there. -/
def HasAccount (db : Database) (id : Id) : Prop := db.has .accounts .id (.integer id) = true

theorem apart_of_nextIsFree {t : Table} (free : db.NextIsFree t) {row : Row}
    (next : row .id = .integer (db.serials t + 1)) (keys : t.unique = [[.id]]) :
    ∀ key ∈ t.unique, ∀ other ∈ db.rows t, agree key row other = false := by
  intro key hkey other hother
  rw [keys, List.mem_singleton] at hkey
  subst hkey
  have ne : row .id ≠ other .id := fun same => free other hother (same.symm.trans next)
  simp [agree, ne]

/-- A transfer of a positive amount between accounts that are there is recorded. -/
theorem ensures_insertTransfer {source target : Id} {amount : Int64}
    {post : Except Error Transfer → Database → Prop} (free : db.NextIsFree .transfers)
    (out : db.HasAccount source) (into : db.HasAccount target) (positive : 0 < amount.toInt)
    (h : ∀ row, (Transfer.mk (db.serials .transfers + 1) source target amount db.now).IsIn row →
      ∀ now, post (.ok ⟨db.serials .transfers + 1, source, target, amount, now⟩)
        ((db.takeSerial .transfers).setRows .transfers (db.rows .transfers ++ [row]))) :
    (insertTransfer source target amount).Ensures post db := by
  let row := db.newRow .transfers [(.fromAccountId, 1), (.toAccountId, 2), (.amount, 3)]
    [.integer source, .integer target, .ofAmount amount]
  have isIn : (Transfer.mk (db.serials .transfers + 1) source target amount db.now).IsIn row :=
    ⟨rfl, rfl, rfl, rfl, db.now, rfl⟩
  have known : ∀ r ∈ Table.transfers.references,
      db.has r.table r.target (row r.column) = true := by
    simp only [Table.references, List.forall_mem_cons]
    exact ⟨out, into, List.forall_mem_nil _⟩
  have accepted : db.insertionRefused? .transfers row = none :=
    insertionRefused?_eq_none_iff.2 ⟨isIn.filled, decide_eq_true positive,
      apart_of_nextIsFree free isIn.id rfl, known⟩
  obtain ⟨now, told⟩ := isIn.read
  exact ensures_of_row (insert_of_accepted accepted) told (h row isIn now)

/-- An entry for an account that is there is written. -/
theorem ensures_insertEntry {account : Id} {amount : Int64}
    {post : Except Error Entry → Database → Prop} (free : db.NextIsFree .entries)
    (there : db.HasAccount account)
    (h : ∀ row, (Entry.mk (db.serials .entries + 1) account amount db.now).IsIn row →
      ∀ now, post (.ok ⟨db.serials .entries + 1, account, amount, now⟩)
        ((db.takeSerial .entries).setRows .entries (db.rows .entries ++ [row]))) :
    (insertEntry account amount).Ensures post db := by
  let row := db.newRow .entries [(.accountId, 1), (.amount, 2)] [.integer account, .ofAmount amount]
  have isIn : (Entry.mk (db.serials .entries + 1) account amount db.now).IsIn row :=
    ⟨rfl, rfl, rfl, db.now, rfl⟩
  have known : ∀ r ∈ Table.entries.references, db.has r.table r.target (row r.column) = true := by
    simp only [Table.references, List.forall_mem_cons]
    exact ⟨there, List.forall_mem_nil _⟩
  have accepted : db.insertionRefused? .entries row = none :=
    insertionRefused?_eq_none_iff.2
      ⟨isIn.filled, rfl, apart_of_nextIsFree free isIn.id rfl, known⟩
  obtain ⟨now, told⟩ := isIn.read
  exact ensures_of_row (insert_of_accepted accepted) told (h row isIn now)

/-! ### Balances -/

theorem mapM_eq_some_self {f : Row → Option Row} {rows : List Row}
    (h : ∀ row ∈ rows, f row = some row) : rows.mapM f = some rows := by
  induction rows with
  | nil => rfl
  | cons row rows ih =>
    rw [List.mapM_cons, h row List.mem_cons_self,
      ih fun other hother => h other (List.mem_cons_of_mem row hother)]
    rfl

/-- An update that is meant for one row changes that row, or is out of range. -/
theorem update_of_one {t : Table} {changes : List (Column × Term)} {key : Column × Parameter}
    {answer : List Column} {arguments : List Value} {before after : List Row} {row : Row}
    (rows : db.rows t = before ++ row :: after) (meant : satisfies arguments row key = true)
    (others : ∀ other ∈ before ++ after, satisfies arguments other key = false) :
    db.update t changes key answer arguments =
      match changedRow? arguments row changes with
      | none => (rangeRefused, db)
      | some row' => (.rows [project answer row'], db.setRows t (before ++ row' :: after)) := by
  have stay (l : List Row) (sub : ∀ other ∈ l, other ∈ before ++ after) :
      l.mapM (fun row => if satisfies arguments row key then changedRow? arguments row changes
        else some row) = some l :=
    mapM_eq_some_self fun other hother => by simp [others other (sub other hother)]
  have unmeant (l : List Row) (sub : ∀ other ∈ l, other ∈ before ++ after) :
      ((l.zip l).filter fun pair => satisfies arguments pair.2 key) = [] := by
    refine List.filter_eq_nil_iff.2 fun pair hpair => ?_
    simp [others pair.2 (sub pair.2 (List.of_mem_zip hpair).2)]
  have changed : (db.rows t).mapM (fun row => if satisfies arguments row key then
      changedRow? arguments row changes else some row) =
        (changedRow? arguments row changes).map fun row' => before ++ row' :: after := by
    rw [rows, List.mapM_append, List.mapM_cons, stay before fun _ => List.mem_append_left _,
      stay after fun _ => List.mem_append_right _, if_pos meant]
    cases changedRow? arguments row changes <;> rfl
  unfold update
  dsimp only
  rw [changed]
  cases changedRow? arguments row changes with
  | none => rfl
  | some row' =>
    have answered : (((before ++ row' :: after).zip (before ++ row :: after)).filter
        fun pair => satisfies arguments pair.2 key) = [(row', row)] := by
      rw [List.zip_append rfl, List.zip_cons_cons, List.filter_append,
        unmeant before fun _ => List.mem_append_left _, List.nil_append, List.filter_cons, if_pos meant,
        unmeant after fun _ => List.mem_append_right _]
    rw [Option.map_some, rows]
    dsimp only
    rw [answered]
    rfl

theorem changedRow?_balance {id : Id} {n old : Int64} {row : Row}
    (balance : row .balance = .ofAmount old) :
    changedRow? [.ofAmount n, .integer id] row [(.balance, .increase 1)] =
      (Amount.add? old n).map fun sum => withBalance sum row := by
  have cell : newCell? [.ofAmount n, .integer id] (row .balance) (.increase 1) =
      (Amount.add? old n).map Value.ofAmount := by
    rw [balance]
    rfl
  unfold changedRow?
  rw [List.mapM_cons, List.mapM_nil]
  dsimp only
  rw [cell]
  cases Amount.add? old n with
  | none => rfl
  | some sum =>
    refine congrArg some (funext fun c => ?_)
    cases c <;> rfl

/-- An addition to the balance in one row. -/
theorem execute_addBalance {id : Id} {n old : Int64} {before after : List Row} {row : Row}
    (rows : db.rows .accounts = before ++ row :: after) (same : row .id = .integer id)
    (balance : row .balance = .ofAmount old)
    (others : ∀ other ∈ before ++ after, other .id ≠ .integer id) :
    db.execute [.ofAmount n, .integer id] .addBalance =
      match Amount.add? old n with
      | none => (rangeRefused, db)
      | some sum => (.rows [project Account.columns (withBalance sum row)],
          db.setRows .accounts (before ++ withBalance sum row :: after)) := by
  have meant : satisfies [.ofAmount n, .integer id] row (.id, 2) = true := decide_eq_true same
  refine (update_of_one rows meant fun other hother => decide_eq_false (others other hother)).trans ?_
  rw [changedRow?_balance balance]
  cases Amount.add? old n <;> rfl

end Database

/-- What a sum that is out of range is reported as. -/
def outOfRange : Error := .database (.rejected (some "22003") "bigint out of range")

/-- An account that is there, if no other row has its identifier, takes what is added to its balance,
unless the sum is out of range. -/
theorem ensures_addBalance {a : Account} {n : Int64} {before after : List Row} {row : Row}
    {post : Except Error Account → Database → Prop}
    (rows : db.rows .accounts = before ++ row :: after) (isIn : a.IsIn row)
    (others : ∀ other ∈ before ++ after, other .id ≠ .integer a.id)
    (done : ∀ sum now, Amount.add? a.balance n = some sum →
      post (.ok { a with balance := sum, createdAt := now })
        (db.setRows .accounts (before ++ withBalance sum row :: after)))
    (refused : Amount.add? a.balance n = none → post (.error outOfRange) db) :
    (addBalance a.id n).Ensures post db := by
  have executed := Database.execute_addBalance (n := n) rows isIn.id isIn.balance others
  cases sum : Amount.add? a.balance n with
  | none =>
    rw [sum] at executed
    rw [addBalance, ensures_fetchFirst, executed]
    exact refused sum
  | some balance =>
    rw [sum] at executed
    obtain ⟨now, told⟩ := (isIn.withBalance balance).read
    exact ensures_of_row executed told (done balance now sum)

end Store

end Teller
