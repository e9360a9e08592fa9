import Teller.Store.Value

/-!
# Statements

The statements that the store sends, as terms. A parameter stands for itself by its number, counted
from one, and the values of all parameters are sent beside the text.

    INSERT INTO entries (account_id, amount) VALUES ($1, $2) RETURNING id, account_id, amount, created_at
    UPDATE accounts SET balance = balance + $1 WHERE id = $2 RETURNING id, owner, …
-/

namespace Teller.Store

/-- The tables of the service. -/
inductive Table where
  | users
  | accounts
  | entries
  | transfers
  | sessions
deriving DecidableEq

namespace Table

def name : Table → String
  | .users => "users"
  | .accounts => "accounts"
  | .entries => "entries"
  | .transfers => "transfers"
  | .sessions => "sessions"

/-- The columns of a table in the order in which its rows are read. -/
def columns : Table → List Column
  | .users => User.columns
  | .accounts => Account.columns
  | .entries => Entry.columns
  | .transfers => Transfer.columns
  | .sessions => Session.columns

end Table

/-- The number of a parameter. -/
abbrev Parameter := Nat

/-- The new value of a column. -/
inductive Term where
  | parameter (p : Parameter)
  /-- The old value and a parameter added to it. -/
  | increase (p : Parameter)
deriving DecidableEq

/-- Which of the matching rows are answered. -/
inductive Extent where
  | first
  /-- The first one, whose row stays locked until the transaction ends. -/
  | firstLocked
  /-- In the order of their identifiers, so many after skipping so many. -/
  | page (limit offset : Parameter)
deriving DecidableEq

/-- What the store asks of the database, but for the values. -/
inductive Statement where
  | insert (table : Table) (values : List (Column × Parameter)) (answer : List Column)
  /-- Rows in which any of the columns is equal to its parameter. -/
  | select (answer : List Column) (table : Table) (matching : List (Column × Parameter))
      (extent : Extent)
  | update (table : Table) (changes : List (Column × Term)) (key : Column × Parameter)
      (answer : List Column)
  | delete (table : Table) (key : Column × Parameter)
  /-- Asks for a constant, to see whether the database answers. -/
  | ping
deriving DecidableEq

/-! ## Text -/

def Parameter.text (p : Parameter) : String := "$" ++ toString p

/-- Items with commas between them. -/
def joined (items : List String) : String := ", ".intercalate items

def columnList (columns : List Column) : String := joined (columns.map Column.name)

/-- A condition that a column is equal to a parameter. -/
def equation (key : Column × Parameter) : String := key.1.name ++ " = " ++ key.2.text

/-- A column with what it is set to. -/
def change : Column × Term → String
  | (c, .parameter p) => c.name ++ " = " ++ p.text
  | (c, .increase p) => c.name ++ " = " ++ c.name ++ " + " ++ p.text

/-- How many rows a selection has, and whether they are locked. -/
def Extent.text : Extent → String
  | .first => "LIMIT 1"
  | .firstLocked => "LIMIT 1 FOR NO KEY UPDATE"
  | .page limit offset => "ORDER BY id LIMIT " ++ limit.text ++ " OFFSET " ++ offset.text

/-- The text that is sent. -/
def Statement.text : Statement → String
  | .insert table values answer =>
    "INSERT INTO " ++ table.name ++ " (" ++ columnList (values.map (·.1)) ++ ") VALUES ("
      ++ joined (values.map fun v => v.2.text) ++ ") RETURNING " ++ columnList answer
  | .select answer table matching extent =>
    "SELECT " ++ columnList answer ++ " FROM " ++ table.name ++ " WHERE "
      ++ " OR ".intercalate (matching.map equation) ++ " " ++ extent.text
  | .update table changes key answer =>
    "UPDATE " ++ table.name ++ " SET " ++ joined (changes.map change) ++ " WHERE " ++ equation key
      ++ " RETURNING " ++ columnList answer
  | .delete table key => "DELETE FROM " ++ table.name ++ " WHERE " ++ equation key
  | .ping => "SELECT 1"

/-! ## The statements of the store -/

namespace Statement

/-- Parameters: the owner, the currency and the balance. -/
def insertAccount : Statement :=
  .insert .accounts [(.owner, 1), (.currency, 2), (.balance, 3)] Account.columns

/-- Parameter: the number of the account. -/
def account : Statement := .select Account.columns .accounts [(.id, 1)] .first

/-- Parameter: the number of the account, whose row is locked. -/
def lockedAccount : Statement := .select Account.columns .accounts [(.id, 1)] .firstLocked

/-- Parameters: the owner, the limit and the offset. -/
def accountsOf : Statement := .select Account.columns .accounts [(.owner, 1)] (.page 2 3)

/-- Parameters: what is added, and the number of the account. -/
def addBalance : Statement :=
  .update .accounts [(.balance, .increase 1)] (.id, 2) Account.columns

/-- Parameter: the number of the account. -/
def deleteAccount : Statement := .delete .accounts (.id, 1)

/-- Parameters: the account and the amount. -/
def insertEntry : Statement := .insert .entries [(.accountId, 1), (.amount, 2)] Entry.columns

def entry : Statement := .select Entry.columns .entries [(.id, 1)] .first

/-- Parameters: the account, the limit and the offset. -/
def entriesOf : Statement := .select Entry.columns .entries [(.accountId, 1)] (.page 2 3)

/-- Parameters: the source, the target and the amount. -/
def insertTransfer : Statement :=
  .insert .transfers [(.fromAccountId, 1), (.toAccountId, 2), (.amount, 3)] Transfer.columns

def transfer : Statement := .select Transfer.columns .transfers [(.id, 1)] .first

/-- Parameters: an account on either side, the limit and the offset. -/
def transfersOf : Statement :=
  .select Transfer.columns .transfers [(.fromAccountId, 1), (.toAccountId, 1)] (.page 2 3)

/-- Parameters: the username, the full name, the mail address and the hash of the password. -/
def insertUser : Statement :=
  .insert .users [(.username, 1), (.fullName, 2), (.email, 3), (.passwordHash, 4)] User.columns

def user : Statement := .select User.columns .users [(.username, 1)] .first

/-- Parameters: what a login is, in the order of the columns. -/
def insertSession : Statement :=
  .insert .sessions
    [(.id, 1), (.username, 2), (.accessToken, 3), (.accessExpiresAt, 4), (.refreshToken, 5),
      (.refreshExpiresAt, 6), (.userAgent, 7), (.clientIp, 8)]
    Session.columns

def session : Statement := .select Session.columns .sessions [(.id, 1)] .first

/-- Parameters: the identifier of the session, the access token and its expiry. -/
def setAccess : Statement :=
  .update .sessions [(.accessToken, .parameter 2), (.accessExpiresAt, .parameter 3)] (.id, 1)
    Session.columns

end Statement

/-! ## What is sent and what comes back -/

/-- What is sent to the database: a command of a transaction, or a statement with its values. -/
inductive Request where
  | start
  | commit
  | rollback
  | query (statement : Statement) (arguments : List Value)
deriving DecidableEq

/-- The text by which the database gets the request. -/
def Request.text : Request → String
  | .start => "BEGIN"
  | .commit => "COMMIT"
  | .rollback => "ROLLBACK"
  | .query statement _ => statement.text

/-- What the database replies. -/
inductive Reply where
  | rows (rows : List (List Value))
  /-- Nothing but the count of rows that were changed. -/
  | affected (count : Nat)
  | refused (code : Option String) (detail : String)
  /-- The connection broke. -/
  | broken
deriving DecidableEq

end Teller.Store
