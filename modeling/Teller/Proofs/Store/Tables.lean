import Mathlib.Data.List.Forall2
import Teller.Proofs.Except
import Teller.Proofs.Interaction

/-!
# Tables and what statements leave of them

A statement changes the rows of one table at most, and none if it is refused. What the store sends
to other tables than those of accounts and entries leaves the money alone, and so does whatever it
only reads.
-/

namespace Teller.Store

variable {α : Type}

/-! ### Reading rows -/

/-- The cell of a column is found again in the answer that has the column. -/
theorem lookup_project {columns : List Column} {c : Column} (h : c ∈ columns) (row : Row) :
    (columns.zip (Database.project columns row)).lookup c = some (row c) := by
  induction columns with
  | nil => cases h
  | cons d columns ih =>
    by_cases same : c = d
    · subst same
      exact List.lookup_cons_self
    · have later : c ∈ columns := (List.mem_cons.1 h).resolve_left same
      change ((d, row d) :: columns.zip (Database.project columns row)).lookup c = _
      rw [List.lookup_cons, beq_false_of_ne same]
      exact ih later

/-- Reading a column of an answer is reading the cell of the row. -/
theorem get_project {α : Type} {columns : List Column} {c : Column} (h : c ∈ columns) (row : Row)
    {read : Value → Option α} {x : α} :
    Cells.get (columns.zip (Database.project columns row)) c read = .ok x ↔
      read (row c) = some x := by
  rw [Cells.get, lookup_project h]
  dsimp only
  cases read (row c) <;> simp

namespace Value

theorem uuid?_eq_some_iff {v : Value} {id : Uuid} : v.uuid? = some id ↔ v = .uuid id := by
  cases v <;> simp [uuid?]

theorem integer?_eq_some_iff {v : Value} {n : Int} : v.integer? = some n ↔ v = .integer n := by
  cases v <;> simp [integer?]

theorem amount?_eq_some_iff {v : Value} {n : Int64} : v.amount? = some n ↔ v = .ofAmount n := by
  cases v with
  | integer k =>
    rw [amount?, Amount.ofInt?_eq_some_iff, ofAmount, integer.injEq]
    exact eq_comm
  | null | boolean | text | instant | uuid => simp [amount?, ofAmount]

theorem text?_eq_some_iff {v : Value} {s : String} : v.text? = some s ↔ v = .text s := by
  cases v <;> simp [text?]

theorem instant?_eq_some_iff {v : Value} {t : Timestamp} :
    v.instant? = some t ↔ v = .instant t := by
  cases v <;> simp [instant?]

theorem boolean?_eq_some_iff {v : Value} {b : Bool} : v.boolean? = some b ↔ v = .boolean b := by
  cases v <;> simp [boolean?]

theorem optionalText?_eq_some_iff {v : Value} {s : Option String} :
    v.optionalText? = some s ↔ v = .ofText? s := by
  cases v <;> cases s <;> simp [optionalText?, ofText?]

end Value

end Teller.Store

namespace Teller

open Store

theorem Account.ofCells_eq_ok_iff {a : Account} {row : Row} :
    ofCells (columns.zip (Database.project columns row)) = .ok a ↔
      row .id = .integer a.id ∧ row .owner = .text a.owner ∧ row .currency = .text a.currency ∧
        row .balance = .ofAmount a.balance ∧ row .createdAt = .instant a.createdAt := by
  simp (disch := decide) only [ofCells, bind_eq_ok_iff, get_project, Value.integer?_eq_some_iff,
    Value.text?_eq_some_iff, Value.amount?_eq_some_iff, Value.instant?_eq_some_iff]
  constructor
  · rintro ⟨_, id, _, owner, _, currency, _, balance, _, createdAt, same⟩
    cases same
    exact ⟨id, owner, currency, balance, createdAt⟩
  · rintro ⟨id, owner, currency, balance, createdAt⟩
    exact ⟨_, id, _, owner, _, currency, _, balance, _, createdAt, rfl⟩

theorem Entry.ofCells_eq_ok_iff {e : Entry} {row : Row} :
    ofCells (columns.zip (Database.project columns row)) = .ok e ↔
      row .id = .integer e.id ∧ row .accountId = .integer e.account ∧
        row .amount = .ofAmount e.amount ∧ row .createdAt = .instant e.createdAt := by
  simp (disch := decide) only [ofCells, bind_eq_ok_iff, get_project, Value.integer?_eq_some_iff,
    Value.amount?_eq_some_iff, Value.instant?_eq_some_iff]
  constructor
  · rintro ⟨_, id, _, account, _, amount, _, createdAt, same⟩
    cases same
    exact ⟨id, account, amount, createdAt⟩
  · rintro ⟨id, account, amount, createdAt⟩
    exact ⟨_, id, _, account, _, amount, _, createdAt, rfl⟩

theorem Transfer.ofCells_eq_ok_iff {t : Transfer} {row : Row} :
    ofCells (columns.zip (Database.project columns row)) = .ok t ↔
      row .id = .integer t.id ∧ row .fromAccountId = .integer t.source ∧
        row .toAccountId = .integer t.target ∧ row .amount = .ofAmount t.amount ∧
        row .createdAt = .instant t.createdAt := by
  simp (disch := decide) only [ofCells, bind_eq_ok_iff, get_project, Value.integer?_eq_some_iff,
    Value.amount?_eq_some_iff, Value.instant?_eq_some_iff]
  constructor
  · rintro ⟨_, id, _, source, _, target, _, amount, _, createdAt, same⟩
    cases same
    exact ⟨id, source, target, amount, createdAt⟩
  · rintro ⟨id, source, target, amount, createdAt⟩
    exact ⟨_, id, _, source, _, target, _, amount, _, createdAt, rfl⟩

theorem User.ofCells_eq_ok_iff {u : User} {row : Row} :
    ofCells (columns.zip (Database.project columns row)) = .ok u ↔
      row .username = .text u.username ∧ row .fullName = .text u.fullName ∧
        row .email = .text u.email ∧ row .passwordHash = .text u.passwordHash ∧
        row .passwordChangedAt = .instant u.passwordChangedAt ∧
        row .createdAt = .instant u.createdAt := by
  simp (disch := decide) only [ofCells, bind_eq_ok_iff, get_project, Value.text?_eq_some_iff,
    Value.instant?_eq_some_iff]
  constructor
  · rintro ⟨_, username, _, fullName, _, email, _, passwordHash, _, passwordChangedAt, _,
      createdAt, same⟩
    cases same
    exact ⟨username, fullName, email, passwordHash, passwordChangedAt, createdAt⟩
  · rintro ⟨username, fullName, email, passwordHash, passwordChangedAt, createdAt⟩
    exact ⟨_, username, _, fullName, _, email, _, passwordHash, _, passwordChangedAt, _, createdAt,
      rfl⟩

/-! ### Lists side by side -/

section

variable {α β : Type} {R : α → β → Prop} {l : List α} {l' : List β}

theorem exists_of_mem_right (h : List.Forall₂ R l l') {y : β} (hy : y ∈ l') : ∃ x ∈ l, R x y := by
  induction h with
  | nil => cases hy
  | @cons x y' l l' hxy _ ih =>
    rcases List.mem_cons.1 hy with rfl | hy
    · exact ⟨x, List.mem_cons_self, hxy⟩
    · obtain ⟨z, hz, hzy⟩ := ih hy
      exact ⟨z, List.mem_cons_of_mem x hz, hzy⟩

theorem exists_of_mem_left (h : List.Forall₂ R l l') {x : α} (hx : x ∈ l) : ∃ y ∈ l', R x y :=
  exists_of_mem_right h.flip hx

end

end Teller

namespace Teller.Store

variable {α : Type}

namespace Database

variable {db : Database}

/-! ### Rows of one table -/

@[simp] theorem rows_setRows_self (db : Database) (t : Table) (rows : List Row) :
    (db.setRows t rows).rows t = rows := if_pos rfl

theorem rows_setRows_ne {t u : Table} (ne : u ≠ t) (rows : List Row) :
    (db.setRows t rows).rows u = db.rows u := if_neg ne

/-- A row that is not admitted is answered with a refusal, never with a broken connection. -/
theorem refused_of_insertionRefused? {t : Table} {row : Row} {refusal : Reply}
    (h : db.insertionRefused? t row = some refusal) :
    ∃ code detail, refusal = .refused code detail := by
  unfold insertionRefused? at h
  repeat' split at h
  all_goals cases h <;> exact ⟨_, _, rfl⟩

/-- A row is inserted if all mandatory cells are there, its table admits it, it agrees with no other
row on a key, and the rows that it names are there. -/
theorem insertionRefused?_eq_none_iff {t : Table} {row : Row} :
    db.insertionRefused? t row = none ↔ (∀ c ∈ t.mandatory, row c ≠ .null) ∧
      t.admits row = true ∧
      (∀ key ∈ t.unique, ∀ other ∈ db.rows t, agree key row other = false) ∧
      ∀ r ∈ t.references, db.has r.table r.target (row r.column) = true := by
  have filled : (∀ c ∈ t.mandatory, row c ≠ .null) ↔
      (t.mandatory.any fun c => row c = .null) = false := by simp
  have apart : (∀ key ∈ t.unique, ∀ other ∈ db.rows t, agree key row other = false) ↔
      (t.unique.any fun key => (db.rows t).any (agree key row)) = false := by simp
  have known : (∀ r ∈ t.references, db.has r.table r.target (row r.column) = true) ↔
      (t.references.any fun r => !db.has r.table r.target (row r.column)) = false := by simp
  rw [filled, apart, known, insertionRefused?]
  cases (t.mandatory.any fun c => row c = .null) <;> cases t.admits row <;>
    cases (t.unique.any fun key => (db.rows t).any (agree key row)) <;>
    cases (t.references.any fun r => !db.has r.table r.target (row r.column)) <;> simp

/-- A row that is inserted has an identifier of its own. -/
theorem fresh_of_not_insertionRefused? {t : Table} {row : Row}
    (h : db.insertionRefused? t row = none) (key : [.id] ∈ t.unique) :
    row .id ∉ (db.rows t).map fun other => other .id := by
  intro mem
  obtain ⟨other, hother, same⟩ := List.mem_map.1 mem
  have differ := (insertionRefused?_eq_none_iff.1 h).2.2.1 [.id] key other hother
  rw [agree, List.all_cons, List.all_nil, Bool.and_true, decide_eq_false_iff_not] at differ
  exact differ same.symm

/-- An insertion is refused, or adds its row at the end of its table. -/
theorem ensures_insert {t : Table} {values : List (Column × Parameter)} {answer : List Column}
    {arguments : List Value} {read : Cells → Except Cause α}
    {post : Except Error α → Database → Prop} (refused : ∀ e, post (.error e) (db.takeSerial t))
    (inserted : db.insertionRefused? t (db.newRow t values arguments) = none → ∀ result,
      post result ((db.takeSerial t).setRows t (db.rows t ++ [db.newRow t values arguments]))) :
    (fetchFirst (.insert t values answer) arguments read).Ensures post db := by
  rw [ensures_fetchFirst, execute, insert]
  cases h : db.insertionRefused? t (db.newRow t values arguments) with
  | some refusal =>
    obtain ⟨code, detail, rfl⟩ := refused_of_insertionRefused? h
    exact refused _
  | none => exact inserted h _

/-- An update is refused, or sets new rows in its table. -/
theorem update_cases (db : Database) (t : Table) (changes : List (Column × Term))
    (key : Column × Parameter) (answer : List Column) (arguments : List Value) :
    db.update t changes key answer arguments = (rangeRefused, db) ∨
      ∃ reply rows, db.update t changes key answer arguments = (reply, db.setRows t rows) ∧
        (db.rows t).mapM (fun row => if satisfies arguments row key then
          changedRow? arguments row changes else some row) = some rows := by
  unfold update
  dsimp only
  split
  · exact .inl rfl
  · next rows h => exact .inr ⟨_, rows, rfl, h⟩

/-! ### What leaves the money alone -/

/-- The rows of accounts and of entries are the same. -/
structure SameMoney (before after : Database) : Prop where
  accounts : after.rows .accounts = before.rows .accounts
  entries : after.rows .entries = before.rows .entries

namespace SameMoney

variable {db₁ db₂ db₃ : Database}

theorem refl (db : Database) : SameMoney db db := ⟨rfl, rfl⟩

theorem trans (h : SameMoney db₁ db₂) (h' : SameMoney db₂ db₃) : SameMoney db₁ db₃ :=
  ⟨h'.accounts.trans h.accounts, h'.entries.trans h.entries⟩

theorem takeSerial (t : Table) (h : SameMoney db₁ db₂) : SameMoney db₁ (db₂.takeSerial t) :=
  ⟨h.accounts, h.entries⟩

theorem setRows {t : Table} (accounts : t ≠ .accounts) (entries : t ≠ .entries)
    (h : SameMoney db₁ db₂) (rows : List Row) : SameMoney db₁ (db₂.setRows t rows) :=
  ⟨(rows_setRows_ne (Ne.symm accounts) rows).trans h.accounts,
    (rows_setRows_ne (Ne.symm entries) rows).trans h.entries⟩

end SameMoney

end Database

end Teller.Store

namespace Teller.Interaction

open Store Store.Database

variable {α β : Type}

/-- Leaves the rows of accounts and of entries as they are, in every database. -/
def Quiet (x : Interaction α) : Prop := ∀ db, x.Ensures (fun _ after => SameMoney db after) db

theorem quiet_pure (x : α) : (pure x : Interaction α).Quiet := fun db => .refl db

theorem quiet_time (clock : Clock) : (time clock).Quiet := fun db _ => .refl db

theorem quiet_identifier : identifier.Quiet := fun db _ => .refl db

theorem quiet_nonce : nonce.Quiet := fun db _ => .refl db

theorem quiet_salt : salt.Quiet := fun db _ => .refl db

theorem Quiet.bind {x : Interaction α} {f : α → Interaction β} (hx : x.Quiet)
    (hf : ∀ a, (f a).Quiet) : (x >>= f).Quiet := fun db =>
  (hx db).bind fun a mid h => (hf a mid).mono fun _ _ h' => h.trans h'

variable {t : Table} {read : Cells → Except Cause α} {arguments : List Value}

/-- Rows of other tables may be added. -/
theorem quiet_insert (accounts : t ≠ .accounts) (entries : t ≠ .entries)
    (values : List (Column × Parameter)) (answer : List Column) :
    (fetchFirst (.insert t values answer) arguments read).Quiet := fun db =>
  ensures_insert (fun _ => .takeSerial t (.refl db)) fun _ _ =>
    .setRows accounts entries (.takeSerial t (.refl db)) _

/-- Rows of other tables may be changed. -/
theorem quiet_update (accounts : t ≠ .accounts) (entries : t ≠ .entries)
    (changes : List (Column × Term)) (key : Column × Parameter) (answer : List Column) :
    (fetchFirst (.update t changes key answer) arguments read).Quiet := by
  intro db
  rw [ensures_fetchFirst, execute]
  obtain same | ⟨reply, rows, same, -⟩ := db.update_cases t changes key answer arguments
  · rw [same]; exact .refl db
  · rw [same]; exact .setRows accounts entries (.refl db) rows

theorem quiet_select (answer : List Column) (t : Table) (keys : List (Column × Parameter))
    (extent : Extent) : (fetchFirst (.select answer t keys extent) arguments read).Quiet :=
  fun db => .refl db

theorem quiet_selectAll (answer : List Column) (t : Table) (keys : List (Column × Parameter))
    (extent : Extent) : (fetchAll (.select answer t keys extent) arguments read).Quiet :=
  fun db => .refl db

theorem quiet_ping : ping.Quiet := fun db => .refl db

end Teller.Interaction
