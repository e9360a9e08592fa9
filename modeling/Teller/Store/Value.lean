import Teller.Amount
import Teller.Store.Error
import Teller.Store.Row

/-!
# Cells of the database

A row comes back as a list of cells in the order of the columns asked for. A field of a row is
looked up by its column; a null where the field cannot be absent is an error.
-/

namespace Teller.Store

/-- A cell of a row, or a parameter of a statement. -/
inductive Value where
  | null
  | boolean (b : Bool)
  | integer (n : Int)
  | text (s : String)
  | instant (t : Timestamp)
  | uuid (id : Uuid)
deriving DecidableEq

namespace Value

/-- An amount as the number it is. -/
def ofAmount (a : Int64) : Value := .integer a.toInt

/-- A text that may be missing. -/
def ofText? : Option String → Value
  | none => .null
  | some s => .text s

/-- The truth value of a cell that has one. -/
def boolean? : Value → Option Bool
  | .boolean b => some b
  | _ => none

def integer? : Value → Option Int
  | .integer n => some n
  | _ => none

/-- An integer that is an amount of money. -/
def amount? : Value → Option Int64
  | .integer n => Amount.ofInt? n
  | _ => none

def text? : Value → Option String
  | .text s => some s
  | _ => none

/-- A text that may be absent. -/
def optionalText? : Value → Option (Option String)
  | .null => some none
  | .text s => some (some s)
  | _ => none

def instant? : Value → Option Timestamp
  | .instant t => some t
  | _ => none

def uuid? : Value → Option Uuid
  | .uuid id => some id
  | _ => none

end Value

/-- The columns of all tables. Columns of one name are one. -/
inductive Column where
  | id
  | owner
  | currency
  | balance
  | accountId
  | amount
  | fromAccountId
  | toAccountId
  | username
  | fullName
  | email
  | passwordHash
  | passwordChangedAt
  | accessToken
  | accessExpiresAt
  | refreshToken
  | refreshExpiresAt
  | userAgent
  | clientIp
  | isBlocked
  | createdAt
deriving DecidableEq

/-- The column as the database calls it. -/
def Column.name : Column → String
  | .id => "id"
  | .owner => "owner"
  | .currency => "currency"
  | .balance => "balance"
  | .accountId => "account_id"
  | .amount => "amount"
  | .fromAccountId => "from_account_id"
  | .toAccountId => "to_account_id"
  | .username => "username"
  | .fullName => "full_name"
  | .email => "email"
  | .passwordHash => "hashed_password"
  | .passwordChangedAt => "password_changed_at"
  | .accessToken => "access_token"
  | .accessExpiresAt => "access_expires_at"
  | .refreshToken => "refresh_token"
  | .refreshExpiresAt => "refresh_expires_at"
  | .userAgent => "user_agent"
  | .clientIp => "client_ip"
  | .isBlocked => "is_blocked"
  | .createdAt => "created_at"

/-- A row with the column of each cell. -/
abbrev Cells := List (Column × Value)

/-- What is wrong with a cell that is not of the kind of its field. -/
def unsuitable : Value → String
  | .null => "unexpected null; try decoding as an `Option`"
  | _ => "mismatched types"

/-- The field in a column. -/
def Cells.get {α : Type} (cells : Cells) (column : Column) (read : Value → Option α) :
    Except Cause α :=
  match cells.lookup column with
  | none => .error (.columnNotFound column.name)
  | some v =>
    match read v with
    | some x => .ok x
    | none => .error (.columnDecode ("\"" ++ column.name ++ "\"") (unsuitable v))

end Teller.Store

namespace Teller

open Store

/-- The columns that an account is read from. -/
def Account.columns : List Column := [.id, .owner, .currency, .balance, .createdAt]

/-- An account as its cells have it. -/
def Account.ofCells (cells : Cells) : Except Cause Account := do
  return ⟨← cells.get .id Value.integer?, ← cells.get .owner Value.text?,
    ← cells.get .currency Value.text?, ← cells.get .balance Value.amount?,
    ← cells.get .createdAt Value.instant?⟩

def Entry.columns : List Column := [.id, .accountId, .amount, .createdAt]

def Entry.ofCells (cells : Cells) : Except Cause Entry := do
  return ⟨← cells.get .id Value.integer?, ← cells.get .accountId Value.integer?,
    ← cells.get .amount Value.amount?, ← cells.get .createdAt Value.instant?⟩

def Transfer.columns : List Column := [.id, .fromAccountId, .toAccountId, .amount, .createdAt]

def Transfer.ofCells (cells : Cells) : Except Cause Transfer := do
  return ⟨← cells.get .id Value.integer?, ← cells.get .fromAccountId Value.integer?,
    ← cells.get .toAccountId Value.integer?, ← cells.get .amount Value.amount?,
    ← cells.get .createdAt Value.instant?⟩

def User.columns : List Column :=
  [.username, .fullName, .email, .passwordHash, .passwordChangedAt, .createdAt]

def User.ofCells (cells : Cells) : Except Cause User := do
  return ⟨← cells.get .username Value.text?, ← cells.get .fullName Value.text?,
    ← cells.get .email Value.text?, ← cells.get .passwordHash Value.text?,
    ← cells.get .passwordChangedAt Value.instant?, ← cells.get .createdAt Value.instant?⟩

def Session.columns : List Column :=
  [.id, .username, .accessToken, .accessExpiresAt, .refreshToken, .refreshExpiresAt, .userAgent,
    .clientIp, .isBlocked, .createdAt]

/-- A session as its cells have it. The agent and the address of the client may be missing. -/
def Session.ofCells (cells : Cells) : Except Cause Session := do
  return ⟨← cells.get .id Value.uuid?, ← cells.get .username Value.text?,
    ← cells.get .accessToken Value.text?, ← cells.get .accessExpiresAt Value.instant?,
    ← cells.get .refreshToken Value.text?, ← cells.get .refreshExpiresAt Value.instant?,
    ← cells.get .userAgent Value.optionalText?, ← cells.get .clientIp Value.optionalText?,
    ← cells.get .isBlocked Value.boolean?, ← cells.get .createdAt Value.instant?⟩

end Teller
