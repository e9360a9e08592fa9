import Mathlib.Logic.Function.Basic
import Teller.Proofs.Store.Sessions
import Teller.Proofs.Store.Transfers

/-!
# Tables of records

The rows of a table as what they are read as: each table has a kind of records, and each record a
key that no other one of its table has. A database holds some tables of records if its rows read as
them, one by one.
-/

namespace Teller.Store

namespace Table

/-- What the rows of a table are read as. -/
abbrev Record : Table → Type
  | .users => User
  | .accounts => Account
  | .entries => Entry
  | .transfers => Transfer
  | .sessions => Session

/-- How a row of the table is read. -/
def read : (t : Table) → Cells → Except Cause t.Record
  | .users => User.ofCells
  | .accounts => Account.ofCells
  | .entries => Entry.ofCells
  | .transfers => Transfer.ofCells
  | .sessions => Session.ofCells

/-- The column by which a row is asked for. -/
def keyColumn : Table → Column
  | .users => .username
  | .accounts | .entries | .transfers | .sessions => .id

/-- What no two records of the table share. -/
def key : (t : Table) → t.Record → Value
  | .users, (u : User) => .text u.username
  | .accounts, (a : Account) => .integer a.id
  | .entries, (e : Entry) => .integer e.id
  | .transfers, (t : Transfer) => .integer t.id
  | .sessions, (s : Session) => .uuid s.id

/-- A row as it is read. -/
def recordOf (t : Table) (row : Row) : Except Cause t.Record :=
  t.read (t.columns.zip (Database.project t.columns row))

/-- A row is read as a record. -/
def Reads (t : Table) (a : t.Record) (row : Row) : Prop := t.recordOf row = .ok a

/-- Two records do not agree on anything that no two of them may agree on. -/
def Apart : (t : Table) → t.Record → t.Record → Prop
  | .users, (u : User), (v : User) => u.username ≠ v.username ∧ u.email ≠ v.email
  | .accounts, (a : Account), (b : Account) =>
    a.id ≠ b.id ∧ (a.owner ≠ b.owner ∨ a.currency ≠ b.currency)
  | .entries, (e : Entry), (f : Entry) => e.id ≠ f.id
  | .transfers, (t : Transfer), (u : Transfer) => t.id ≠ u.id
  | .sessions, (s : Session), (r : Session) => s.id ≠ r.id

section

variable {t : Table} {a b : t.Record} {row other : Row}

theorem Reads.key (h : t.Reads a row) : row t.keyColumn = t.key a := by
  cases t with
  | users => exact (User.ofCells_eq_ok_iff.1 h).1
  | accounts => exact (Account.ofCells_eq_ok_iff.1 h).1
  | entries => exact (Entry.ofCells_eq_ok_iff.1 h).1
  | transfers => exact (Transfer.ofCells_eq_ok_iff.1 h).1
  | sessions => exact (Session.ofCells_eq_ok_iff.1 h).id

/-- Records that are apart have different keys. -/
theorem key_ne_of_apart (h : t.Apart a b) : t.key a ≠ t.key b := by
  cases t with
  | users => exact fun same => h.1 (Value.text.inj same)
  | accounts => exact fun same => h.1 (Value.integer.inj same)
  | entries => exact fun same => h (Value.integer.inj same)
  | transfers => exact fun same => h (Value.integer.inj same)
  | sessions => exact fun same => h (Value.uuid.inj same)

/-- No cell that must be there is missing in the row of a record. -/
theorem Reads.filled (h : t.Reads a row) :
    ∀ c ∈ t.mandatory, row c ≠ .null := by
  cases t with
  | users =>
    obtain ⟨_, _, _, _, _, _⟩ := User.ofCells_eq_ok_iff.1 h
    simp_all [mandatory, columns, User.columns]
  | accounts =>
    obtain ⟨_, _, _, _, _⟩ := Account.ofCells_eq_ok_iff.1 h
    simp_all [mandatory, columns, Account.columns, Value.ofAmount]
  | entries =>
    obtain ⟨_, _, _, _⟩ := Entry.ofCells_eq_ok_iff.1 h
    simp_all [mandatory, columns, Entry.columns, Value.ofAmount]
  | transfers =>
    obtain ⟨_, _, _, _, _⟩ := Transfer.ofCells_eq_ok_iff.1 h
    simp_all [mandatory, columns, Transfer.columns, Value.ofAmount]
  | sessions =>
    obtain ⟨_, _, _, _, _, _, _, _, _, _⟩ := Session.ofCells_eq_ok_iff.1 h
    simp_all [mandatory, columns, Session.columns]

/-- Rows share no unique group of columns if their records are apart. -/
theorem apart_iff (reads : t.Reads a row) (reads' : t.Reads b other) :
    (∀ key ∈ t.unique, agree key row other = false) ↔ t.Apart a b := by
  cases t with
  | users =>
    obtain ⟨username, -, email, -⟩ := User.ofCells_eq_ok_iff.1 reads
    obtain ⟨username', -, email', -⟩ := User.ofCells_eq_ok_iff.1 reads'
    simp [unique, Apart, agree, username, email, username', email']
  | accounts =>
    obtain ⟨id, owner, currency, -⟩ := Account.ofCells_eq_ok_iff.1 reads
    obtain ⟨id', owner', currency', -⟩ := Account.ofCells_eq_ok_iff.1 reads'
    simp [unique, Apart, agree, id, owner, currency, id', owner', currency']
  | entries =>
    have id := (Entry.ofCells_eq_ok_iff.1 reads).1
    have id' := (Entry.ofCells_eq_ok_iff.1 reads').1
    simp [unique, Apart, agree, id, id']
  | transfers =>
    have id := (Transfer.ofCells_eq_ok_iff.1 reads).1
    have id' := (Transfer.ofCells_eq_ok_iff.1 reads').1
    simp [unique, Apart, agree, id, id']
  | sessions =>
    have id := (Session.ofCells_eq_ok_iff.1 reads).id
    have id' := (Session.ofCells_eq_ok_iff.1 reads').id
    simp [unique, Apart, agree, id, id']

end

end Table

theorem filter_of_apart {α : Type} {f : α → Value} {v : Value} {l : List α}
    (apart : ∀ a ∈ l, f a ≠ v) :
    (l.filter fun a => f a = v) = [] ∧ (l.filter fun a => f a ≠ v) = l :=
  ⟨List.filter_eq_nil_iff.2 fun a mem => by simpa using apart a mem,
    List.filter_eq_self.2 fun a mem => by simpa using apart a mem⟩

/-- The records of each table, in the order of their insertion. -/
abbrev Tables := (t : Table) → List t.Record

namespace Tables

variable {tables : Tables} {t : Table} {a : t.Record} {v : Value}

/-- Other records in one table. -/
def set (tables : Tables) (t : Table) (records : List t.Record) : Tables :=
  Function.update tables t records

@[simp] theorem set_self (tables : Tables) (t : Table) (records : List t.Record) :
    tables.set t records t = records := Function.update_self _ _ _

theorem set_ne (tables : Tables) {t u : Table} (ne : u ≠ t) (records : List t.Record) :
    tables.set t records u = tables u := Function.update_of_ne ne _ _

/-- The record with a key. -/
def find? (tables : Tables) (t : Table) (key : Value) : Option t.Record :=
  (tables t).find? fun a => t.key a = key

theorem of_find?_eq_none (h : tables.find? t v = none) : ∀ a ∈ tables t, t.key a ≠ v :=
  fun a mem here => List.find?_eq_none.1 h a mem (decide_eq_true here)

theorem of_find?_eq_some (h : tables.find? t v = some a) : a ∈ tables t ∧ t.key a = v :=
  ⟨List.mem_of_find?_eq_some h,
    of_decide_eq_true (List.find?_some (p := fun a => t.key a = v) h)⟩

theorem map_of_apart {l : List t.Record} (apart : ∀ b ∈ l, t.key b ≠ v) (a' : t.Record) :
    l.map (fun b => if t.key b = v then a' else b) = l :=
  (List.map_congr_left fun b hb => if_neg (apart b hb)).trans (List.map_id _)

/-- The user and the accounts that a record names are there, and if it is a transfer its amount is
positive. -/
def Know (tables : Tables) : (t : Table) → t.Record → Prop
  | .users, _ => True
  | .accounts, (a : Account) => ∃ u ∈ tables .users, u.username = a.owner
  | .entries, (e : Entry) => ∃ a ∈ tables .accounts, a.id = e.account
  | .transfers, (t : Transfer) => 0 < t.amount.toInt ∧
      (∃ a ∈ tables .accounts, a.id = t.source) ∧ ∃ a ∈ tables .accounts, a.id = t.target
  | .sessions, (s : Session) => ∃ u ∈ tables .users, u.username = s.username

/-- These accounts and nothing else. -/
def ofAccounts (accounts : List Account) : Tables
  | .accounts => accounts
  | .users | .entries | .transfers | .sessions => []

/-- What the schema asks of a record that is added. -/
structure Accept (tables : Tables) (t : Table) (a : t.Record) : Prop where
  apart : ∀ other ∈ tables t, t.Apart a other
  known : tables.Know t a

/-- An entry or a transfer names an account. -/
def Name (tables : Tables) (id : Id) : Prop :=
  (∃ e ∈ tables .entries, e.account = id) ∨
    (∃ t ∈ tables .transfers, t.source = id) ∨ ∃ t ∈ tables .transfers, t.target = id

end Tables

namespace Database

/-- The rows of a database read as these records, and no two records of a table have the same
key. -/
structure Holds (db : Database) (tables : Tables) : Prop where
  rows : ∀ t, List.Forall₂ t.Reads (tables t) (db.rows t)
  distinct : ∀ t, ((tables t).map t.key).Nodup

theorem setRows_self (db : Database) (t : Table) : db.setRows t (db.rows t) = db := by
  have same : (fun u => if u = t then db.rows t else db.rows u) = db.rows := by
    funext u
    split
    · next here => rw [here]
    · rfl
  rw [setRows, same]

namespace Holds

variable {db after : Database} {tables : Tables} {t : Table} {records : List t.Record}
  {a : t.Record} {row : Row} {v : Value}

/-- Only the rows count. -/
theorem of_rows (h : db.Holds tables) (same : after.rows = db.rows) : after.Holds tables :=
  ⟨fun t => same ▸ h.rows t, h.distinct⟩

/-- One table has other rows. -/
theorem set (h : db.Holds tables) (rows : List Row) (reads : List.Forall₂ t.Reads records rows)
    (distinct : (records.map t.key).Nodup) : (db.setRows t rows).Holds (tables.set t records) := by
  constructor <;> intro u <;> by_cases here : u = t
  · subst here
    rw [Tables.set_self, rows_setRows_self]
    exact reads
  · rw [Tables.set_ne tables here, rows_setRows_ne here]
    exact h.rows u
  · subst here
    rw [Tables.set_self]
    exact distinct
  · rw [Tables.set_ne tables here]
    exact h.distinct u

/-- A database with accounts and nothing else. -/
theorem holding {accounts : List Account} (distinct : (accounts.map Account.id).Nodup) :
    (Database.holding accounts).Holds (.ofAccounts accounts) := by
  have reads (a : Account) : Table.accounts.Reads a a.row :=
    Account.ofCells_eq_ok_iff.2 ⟨rfl, rfl, rfl, rfl, rfl⟩
  have keys : (accounts.map Table.accounts.key) = (accounts.map Account.id).map .integer :=
    List.map_map.symm
  constructor <;> rintro (_ | _) <;> try exact .nil
  · exact List.forall₂_map_right_iff.2 (List.forall₂_same.2 fun a _ => reads a)
  · change (accounts.map Table.accounts.key).Nodup
    rw [keys]
    exact distinct.map fun _ _ => Value.integer.inj

/-- The record with a key is the only one. -/
theorem find?_of_mem (h : db.Holds tables) (mem : a ∈ tables t) :
    tables.find? t (t.key a) = some a := by
  cases found : tables.find? t (t.key a) with
  | none => exact absurd rfl (Tables.of_find?_eq_none found a mem)
  | some b =>
    obtain ⟨there, same⟩ := Tables.of_find?_eq_some found
    rw [List.inj_on_of_nodup_map (h.distinct t) there mem same]

/-- Where the one row of a key is, and the other rows around it. In its place there can be the row
of another record with that key, or none. -/
structure Around (db : Database) (tables : Tables) (t : Table) (v : Value) (a : t.Record)
    (before : List Row) (row : Row) (after : List Row) : Prop where
  rows : db.rows t = before ++ row :: after
  reads : t.Reads a row
  others : ∀ other ∈ before ++ after, other t.keyColumn ≠ v
  replaced : ∀ a' row', t.Reads a' row' → t.key a' = v →
    (db.setRows t (before ++ row' :: after)).Holds
      (tables.set t ((tables t).map fun b => if t.key b = v then a' else b))
  removed : (db.setRows t (before ++ after)).Holds
    (tables.set t ((tables t).filter fun b => t.key b ≠ v))

/-- A record that is found has a row, between those of the records before and after it. -/
theorem around (h : db.Holds tables) (found : tables.find? t v = some a) :
    ∃ before row after, Around db tables t v a before row after := by
  obtain ⟨mem, key⟩ := Tables.of_find?_eq_some found
  obtain ⟨records, records', same⟩ := List.append_of_mem mem
  have front := List.forall₂_take records.length (h.rows t)
  have back := List.forall₂_drop records.length (h.rows t)
  rw [same, List.take_left] at front
  rw [same, List.drop_left, List.forall₂_cons_left_iff] at back
  obtain ⟨row, after, reads, rest, dropped⟩ := back
  have distinct := h.distinct t
  rw [same, List.map_append, List.map_cons, key] at distinct
  obtain ⟨new, distinct'⟩ := List.nodup_cons.1 (List.nodup_middle.1 distinct)
  rw [← List.map_append] at new distinct'
  have apart : ∀ b ∈ records ++ records', t.key b ≠ v :=
    fun b hb here => new (List.mem_map.2 ⟨b, hb, here⟩)
  obtain ⟨frontApart, backApart⟩ := List.forall_mem_append.1 apart
  refine ⟨(db.rows t).take records.length, row, after, ?_, reads, fun other mem => ?_,
    fun a' row' reads' key' => ?_, ?_⟩
  · rw [← dropped, List.take_append_drop]
  · obtain ⟨b, hb, told⟩ := exists_of_mem_right (List.rel_append front rest) mem
    exact told.key ▸ apart b hb
  · rw [same, List.map_append, List.map_cons, if_pos key, Tables.map_of_apart frontApart,
      Tables.map_of_apart backApart]
    refine h.set _ (List.rel_append front (.cons reads' rest)) ?_
    rw [List.map_append, List.map_cons, key']
    exact distinct
  · rw [same, List.filter_append, List.filter_cons, if_neg (by simp [key]),
      (filter_of_apart frontApart).2, (filter_of_apart backApart).2]
    exact h.set _ (List.rel_append front rest) distinct'

/-! ### What the schema asks -/

theorem forall_iff (h : db.Holds tables) {onRow : Row → Prop} {onRecord : t.Record → Prop}
    (same : ∀ a row, t.Reads a row → (onRow row ↔ onRecord a)) :
    (∀ row ∈ db.rows t, onRow row) ↔ ∀ a ∈ tables t, onRecord a := by
  constructor
  · intro all a mem
    obtain ⟨row, there, reads⟩ := exists_of_mem_left (h.rows t) mem
    exact (same a row reads).1 (all row there)
  · intro all row mem
    obtain ⟨a, there, reads⟩ := exists_of_mem_right (h.rows t) mem
    exact (same a row reads).2 (all a there)

/-- A table has a row with a cell if a record says so. -/
theorem has_iff (h : db.Holds tables) {c : Column} {told : t.Record → Prop}
    (cell : ∀ a row, t.Reads a row → (row c = v ↔ told a)) :
    db.has t c v ↔ ∃ a ∈ tables t, told a := by
  have none : (∀ row ∈ db.rows t, row c ≠ v) ↔ ∀ a ∈ tables t, ¬told a :=
    h.forall_iff fun a row reads => not_congr (cell a row reads)
  rw [← not_iff_not]
  simpa [has] using none

theorem has_user_iff (h : db.Holds tables) {username : String} :
    db.has .users .username (.text username) ↔ ∃ u ∈ tables .users, u.username = username :=
  h.has_iff fun u row reads => by
    rw [(User.ofCells_eq_ok_iff.1 reads).1, Value.text.injEq]

theorem has_account_iff (h : db.Holds tables) {id : Id} :
    db.has .accounts .id (.integer id) ↔ ∃ a ∈ tables .accounts, a.id = id :=
  h.has_iff fun a row reads => by
    rw [(Account.ofCells_eq_ok_iff.1 reads).1, Value.integer.injEq]

/-- A row is admitted if the record has what it names. -/
theorem know_iff (h : db.Holds tables) (reads : t.Reads a row) :
    (t.admits row = true ∧ ∀ r ∈ t.references, db.has r.table r.target (row r.column) = true) ↔
      tables.Know t a := by
  cases t with
  | users => simp [Table.references, Table.admits, Tables.Know]
  | accounts =>
    have owner := (Account.ofCells_eq_ok_iff.1 reads).2.1
    simp [Table.references, Table.admits, Tables.Know, owner, h.has_user_iff]
  | entries =>
    have account := (Entry.ofCells_eq_ok_iff.1 reads).2.1
    simp [Table.references, Table.admits, Tables.Know, account, h.has_account_iff]
  | transfers =>
    obtain ⟨-, source, target, amount, -⟩ := Transfer.ofCells_eq_ok_iff.1 reads
    simp [Table.references, Table.admits, Tables.Know, source, target, amount, Value.ofAmount,
      h.has_account_iff]
  | sessions =>
    have username := (Session.ofCells_eq_ok_iff.1 reads).username
    simp [Table.references, Table.admits, Tables.Know, username, h.has_user_iff]

/-- The row of a record is inserted if the schema lets the record be added. -/
theorem accept_iff (h : db.Holds tables) (reads : t.Reads a row) :
    db.insertionRefused? t row = none ↔ tables.Accept t a := by
  have apart : (∀ key ∈ t.unique, ∀ other ∈ db.rows t, agree key row other = false) ↔
      ∀ b ∈ tables t, t.Apart a b := by
    rw [← h.forall_iff fun b other told => Table.apart_iff reads told]
    exact ⟨fun all other there key mem => all key mem other there,
      fun all key mem other there => all other there key mem⟩
  rw [insertionRefused?_eq_none_iff, apart]
  constructor
  · rintro ⟨-, admitted, apart, known⟩
    exact ⟨apart, (h.know_iff reads).1 ⟨admitted, known⟩⟩
  · rintro ⟨apart, known⟩
    obtain ⟨admitted, known⟩ := (h.know_iff reads).2 known
    exact ⟨reads.filled, admitted, apart, known⟩

/-- A row is referred to if a record names its account. -/
theorem isReferenced_iff (h : db.Holds tables) {a : Account}
    (reads : Table.accounts.Reads a row) :
    db.isReferenced .accounts row ↔ tables.Name a.id := by
  have id := (Account.ofCells_eq_ok_iff.1 reads).1
  have entries : db.has .entries .accountId (.integer a.id) ↔
      ∃ e ∈ tables .entries, e.account = a.id :=
    h.has_iff fun e row reads => by
      rw [(Entry.ofCells_eq_ok_iff.1 reads).2.1, Value.integer.injEq]
  have sources : db.has .transfers .fromAccountId (.integer a.id) ↔
      ∃ t ∈ tables .transfers, t.source = a.id :=
    h.has_iff fun t row reads => by
      rw [(Transfer.ofCells_eq_ok_iff.1 reads).2.1, Value.integer.injEq]
  have targets : db.has .transfers .toAccountId (.integer a.id) ↔
      ∃ t ∈ tables .transfers, t.target = a.id :=
    h.has_iff fun t row reads => by
      rw [(Transfer.ofCells_eq_ok_iff.1 reads).2.2.1, Value.integer.injEq]
  rw [Tables.Name, ← entries, ← sources, ← targets]
  simp [isReferenced, Table.all, Table.references, id]

end Holds

end Database

end Teller.Store
