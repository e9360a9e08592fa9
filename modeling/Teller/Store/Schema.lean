import Teller.Store.Statement

/-!
# The schema

Which columns of a table must have a value, which groups of columns no two rows share, and which
columns name a row of another table. Accounts and sessions name a user; entries name an account, and
transfers name two.
-/

namespace Teller.Store

/-- A row: the cell in each column. -/
abbrev Row := Column → Value

/-- A column whose cells each name a row of a table by one of its columns. -/
structure Reference where
  column : Column
  table : Table
  target : Column
deriving DecidableEq

namespace Table

/-- Whether rows get serial numbers. -/
def hasSerial : Table → Bool
  | .accounts | .entries | .transfers => true
  | .users | .sessions => false

/-- The columns whose cells cannot be null. -/
def mandatory (t : Table) : List Column :=
  t.columns.filter fun c => c ≠ .userAgent ∧ c ≠ .clientIp

/-- The groups of columns that no two rows agree on. -/
def unique : Table → List (List Column)
  | .users => [[.username], [.email]]
  | .accounts => [[.id], [.owner, .currency]]
  | .entries | .transfers | .sessions => [[.id]]

/-- The columns that name a row of another table. -/
def references : Table → List Reference
  | .users => []
  | .accounts => [⟨.owner, .users, .username⟩]
  | .entries => [⟨.accountId, .accounts, .id⟩]
  | .transfers => [⟨.fromAccountId, .accounts, .id⟩, ⟨.toAccountId, .accounts, .id⟩]
  | .sessions => [⟨.username, .users, .username⟩]

/-- The five tables of the service. -/
def all : List Table := [.users, .accounts, .entries, .transfers, .sessions]

/-- Only positive amounts are transferred. -/
def admits (t : Table) (row : Row) : Bool :=
  match t, row .amount with
  | .transfers, .integer n => 0 < n
  | _, _ => true

end Table

/-- When no password was ever changed. -/
def neverChanged : Timestamp := ⟨-62135596800 * nanosPerSecond, by decide, by decide⟩

/-- The cell of a column that a new row is given no value for. -/
def defaultCell (serial : Int) (now : Timestamp) (t : Table) : Column → Value
  | .id => if t.hasSerial then .integer serial else .null
  | .createdAt => .instant now
  | .passwordChangedAt => .instant neverChanged
  | .isBlocked => .boolean false
  | _ => .null

/-- Whether two rows agree on a group of columns. -/
def agree (key : List Column) (a b : Row) : Bool := key.all fun c => a c = b c

end Teller.Store
