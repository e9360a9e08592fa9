import Teller.Store.Operation
import Teller.Store.Schema

/-!
# A database that executes statements

The rows of each table in the order in which they were inserted, and the last serial number of each
table. A refused statement changes nothing, except that an insertion takes its serial number.

A transaction remembers the rows it begins with. A rollback brings them back, but no serial numbers;
a commit forgets them.
-/

namespace Teller.Store

/-- What a database keeps, and the rows it would go back to. -/
structure Database where
  rows : Table → List Row
  /-- The last serial number given in each table. -/
  serials : Table → Int
  now : Timestamp
  /-- The rows as they were when the transaction started. -/
  saved : Option (Table → List Row)

namespace Database

/-- A database without rows. -/
def empty (now : Timestamp) : Database := ⟨fun _ => [], fun _ => 0, now, none⟩

/-- Other rows in one table. -/
def setRows (db : Database) (t : Table) (rows : List Row) : Database :=
  { db with rows := fun u => if u = t then rows else db.rows u }

/-- The database after the next serial number of a table was taken. -/
def takeSerial (db : Database) (t : Table) : Database :=
  { db with serials := fun u => if u = t then db.serials t + 1 else db.serials u }

/-- The value of a parameter. -/
def parameter (arguments : List Value) (p : Parameter) : Value := arguments.getD (p - 1) .null

/-- Some cells of a row. -/
def project (answer : List Column) (row : Row) : List Value := answer.map row

/-! ## Refusals -/

/-- A refusal by its SQLSTATE. -/
def refuse (code detail : String) : Reply := .refused (some code) detail

def nullRefused : Reply := refuse "23502" "null value in a column that must have a value"

def checkRefused : Reply := refuse "23514" "new row violates check constraint"

/-- The refusal of a row that shares a unique group of columns with another one. -/
def uniqueRefused : Reply :=
  refuse Error.uniqueViolation "duplicate key value violates unique constraint"

/-- The refusal of a change that would leave a reference without its row. -/
def referenceRefused : Reply :=
  refuse Error.foreignKeyViolation "insert, update or delete violates foreign key constraint"

/-- The refusal of a sum that the column cannot hold. -/
def rangeRefused : Reply := refuse "22003" "bigint out of range"

/-- The refusal of a page before the first one. -/
def windowRefused : Reply := refuse "2201W" "LIMIT and OFFSET must not be negative"

/-- Whether a table has a row with this cell. -/
def has (db : Database) (t : Table) (c : Column) (v : Value) : Bool :=
  (db.rows t).any fun row => row c = v

/-- Why a row cannot be inserted. -/
def insertionRefused? (db : Database) (t : Table) (row : Row) : Option Reply :=
  if t.mandatory.any fun c => row c = .null then some nullRefused
  else if !t.admits row then some checkRefused
  else if t.unique.any fun key => (db.rows t).any (agree key row) then some uniqueRefused
  else if t.references.any fun r => !db.has r.table r.target (row r.column) then
    some referenceRefused
  else none

/-- Whether a row of another table names this one. -/
def isReferenced (db : Database) (t : Table) (row : Row) : Bool :=
  Table.all.any fun u =>
    u.references.any fun r => r.table = t && db.has u r.column (row r.target)

/-! ## Statements -/

/-- Cells that no value is given for have the default of their column. -/
def newRow (db : Database) (t : Table) (values : List (Column × Parameter))
    (arguments : List Value) : Row := fun c =>
  match values.lookup c with
  | some p => parameter arguments p
  | none => defaultCell (db.serials t + 1) db.now t c

/-- A row that is admitted comes last. The serial number is taken in any case. -/
def insert (db : Database) (t : Table) (values : List (Column × Parameter)) (answer : List Column)
    (arguments : List Value) : Reply × Database :=
  let row := db.newRow t values arguments
  match db.insertionRefused? t row with
  | some refusal => (refusal, db.takeSerial t)
  | none =>
    (.rows [project answer row], (db.takeSerial t).setRows t (db.rows t ++ [row]))

/-- Whether a row has the cell that a condition asks for. -/
def satisfies (arguments : List Value) (row : Row) (key : Column × Parameter) : Bool :=
  row key.1 = parameter arguments key.2

/-- The order of serial numbers. -/
def serialLe (a b : Row) : Bool :=
  match a .id, b .id with
  | .integer m, .integer n => m ≤ n
  | _, _ => true

/-- The rows that an extent leaves of the matching ones. -/
def take (arguments : List Value) (matching : List Row) : Extent → Option (List Row)
  | .first | .firstLocked => some (matching.take 1)
  | .page limit offset =>
    match parameter arguments limit, parameter arguments offset with
    | .integer l, .integer o =>
      if l < 0 ∨ o < 0 then none
      else some (((matching.mergeSort serialLe).drop o.toNat).take l.toNat)
    | _, _ => none

/-- The rows in which any key is satisfied, as many as the extent says. -/
def select (db : Database) (answer : List Column) (t : Table) (keys : List (Column × Parameter))
    (extent : Extent) (arguments : List Value) : Reply :=
  let matching := (db.rows t).filter fun row => keys.any (satisfies arguments row)
  match take arguments matching extent with
  | some rows => .rows (rows.map (project answer))
  | none => windowRefused

/-- The new cell of a column, unless it leaves the range of integers. -/
def newCell? (arguments : List Value) (old : Value) : Term → Option Value
  | .parameter p => some (parameter arguments p)
  | .increase p =>
    match old, parameter arguments p with
    | .integer m, .integer n => (Amount.ofInt? (m + n)).map Value.ofAmount
    | _, _ => some .null

/-- A row with its changes, all of them made from the old cells. -/
def changedRow? (arguments : List Value) (row : Row) (changes : List (Column × Term)) :
    Option Row := do
  let cells ← changes.mapM fun (c, term) => do return (c, ← newCell? arguments (row c) term)
  return fun c => (cells.lookup c).getD (row c)

/-- No column is changed that other rows are held against. -/
def update (db : Database) (t : Table) (changes : List (Column × Term)) (key : Column × Parameter)
    (answer : List Column) (arguments : List Value) : Reply × Database :=
  let isMeant (row : Row) : Bool := satisfies arguments row key
  -- If one row would leave the range, none is changed.
  let changed := (db.rows t).mapM fun row =>
    if isMeant row then changedRow? arguments row changes else some row
  match changed with
  | none => (rangeRefused, db)
  | some rows =>
    let answered := (rows.zip (db.rows t)).filter fun pair => isMeant pair.2
    (.rows (answered.map fun pair => project answer pair.1), db.setRows t rows)

/-- The rows with the key go, unless one of them is referred to. -/
def delete (db : Database) (t : Table) (key : Column × Parameter) (arguments : List Value) :
    Reply × Database :=
  let (meant, kept) := (db.rows t).partition fun row => satisfies arguments row key
  if meant.any (db.isReferenced t) then (referenceRefused, db)
  else (.affected meant.length, db.setRows t kept)

/-- The reply to a statement, and the database after it. -/
def execute (db : Database) (arguments : List Value) : Statement → Reply × Database
  | .insert t values answer => db.insert t values answer arguments
  | .select answer t keys extent => (db.select answer t keys extent arguments, db)
  | .update t changes key answer => db.update t changes key answer arguments
  | .delete t key => db.delete t key arguments
  | .ping => (.rows [[.integer 1]], db)

/-- The reply to a request and the database after it. -/
def answer (db : Database) : Request → Reply × Database
  | .start => (.affected 0, { db with saved := some db.rows })
  | .commit => (.affected 0, { db with saved := none })
  | .rollback => (.affected 0, { db with rows := db.saved.getD db.rows, saved := none })
  | .query statement arguments => db.execute arguments statement

end Database

end Teller.Store
