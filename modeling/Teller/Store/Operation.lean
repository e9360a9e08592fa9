import Teller.Interaction

/-!
# What the store does

Each operation sends one statement with its parameters and reads the rows that come back. One that
answers with a row takes the first and fails if there is none; one that deletes fails if nothing was
deleted.
-/

namespace Teller.Store

/-- What a broken connection is reported as. -/
def Cause.broken : Cause := .connection "expected to read 5 bytes, got 0 bytes at EOF"

/-- The rows of a reply, or why there are none. -/
def Reply.rows? : Reply → Except Error (List (List Value))
  | .rows found => .ok found
  | .affected _ => .ok []
  | .refused code detail => .error (.database (.rejected code detail))
  | .broken => .error (.database .broken)

/-- The count of rows that a reply tells of. -/
def Reply.count? : Reply → Except Error Nat
  | .rows found => .ok found.length
  | .affected n => .ok n
  | .refused code detail => .error (.database (.rejected code detail))
  | .broken => .error (.database .broken)

section

variable {α : Type}

/-- Reads a row by the columns that were asked for. -/
def readRow (columns : List Column) (read : Cells → Except Cause α) (row : List Value) :
    Except Error α :=
  (read (columns.zip row)).mapError .database

/-- The first of some rows. -/
def readFirst (columns : List Column) (read : Cells → Except Cause α) :
    List (List Value) → Except Error α
  | [] => .error (.database .rowNotFound)
  | row :: _ => readRow columns read row

/-- The columns of the rows that a statement is answered with. -/
def Statement.answer : Statement → List Column
  | .insert _ _ answer | .select answer _ _ _ | .update _ _ _ answer => answer
  | .delete _ _ | .ping => []

/-- Sends a statement and reads the first row of the reply. No row is an error. -/
def fetchFirst (s : Statement) (arguments : List Value) (read : Cells → Except Cause α) :
    Interaction (Except Error α) := do
  let reply ← .send (.query s arguments)
  return do readFirst s.answer read (← reply.rows?)

/-- Sends a statement and reads every row of the reply. One bad row spoils them all. -/
def fetchAll (s : Statement) (arguments : List Value) (read : Cells → Except Cause α) :
    Interaction (Except Error (List α)) := do
  let reply ← .send (.query s arguments)
  return do (← reply.rows?).mapM (readRow s.answer read)

/-- Starts or ends a transaction. -/
def command (request : Request) : Interaction (Except Error Unit) := do
  let reply ← .send request
  return do let _ ← reply.count?

end

/-- So many rows after skipping so many. -/
structure Window where
  limit : Int64
  offset : Int64
deriving DecidableEq

/-- A window is sent as its limit and its offset. -/
def Window.arguments (w : Window) : List Value := [.ofAmount w.limit, .ofAmount w.offset]

/-! ## Accounts -/

def insertAccount (owner currency : String) (balance : Int64) :
    Interaction (Except Error Account) :=
  fetchFirst .insertAccount [.text owner, .text currency, .ofAmount balance] Account.ofCells

def account (id : Id) : Interaction (Except Error Account) :=
  fetchFirst .account [.integer id] Account.ofCells

/-- An account whose row stays locked until the transaction ends. -/
def lockedAccount (id : Id) : Interaction (Except Error Account) :=
  fetchFirst .lockedAccount [.integer id] Account.ofCells

/-- The accounts of an owner, from the lowest number on. -/
def accountsOf (owner : String) (window : Window) : Interaction (Except Error (List Account)) :=
  fetchAll .accountsOf (.text owner :: window.arguments) Account.ofCells

/-- Adds to a balance; the answer has the new one. -/
def addBalance (id : Id) (amount : Int64) : Interaction (Except Error Account) :=
  fetchFirst .addBalance [.ofAmount amount, .integer id] Account.ofCells

/-- Closes an account. That none was there is told by the count of deleted rows. -/
def deleteAccount (id : Id) : Interaction (Except Error Unit) := do
  let reply ← .send (.query .deleteAccount [.integer id])
  return do if (← reply.count?) = 0 then throw (.database .rowNotFound)

/-! ## Entries and transfers -/

/-- Posts an amount to an account, and leaves the balance as it is. -/
def insertEntry (account : Id) (amount : Int64) : Interaction (Except Error Entry) :=
  fetchFirst .insertEntry [.integer account, .ofAmount amount] Entry.ofCells

def entry (id : Id) : Interaction (Except Error Entry) :=
  fetchFirst .entry [.integer id] Entry.ofCells

/-- The entries of an account, from the lowest number on. -/
def entriesOf (account : Id) (window : Window) : Interaction (Except Error (List Entry)) :=
  fetchAll .entriesOf (.integer account :: window.arguments) Entry.ofCells

/-- Records a transfer, and leaves both accounts as they are. -/
def insertTransfer (source target : Id) (amount : Int64) : Interaction (Except Error Transfer) :=
  fetchFirst .insertTransfer [.integer source, .integer target, .ofAmount amount] Transfer.ofCells

def transfer (id : Id) : Interaction (Except Error Transfer) :=
  fetchFirst .transfer [.integer id] Transfer.ofCells

/-- The transfers that leave or enter an account. -/
def transfersOf (account : Id) (window : Window) : Interaction (Except Error (List Transfer)) :=
  fetchAll .transfersOf (.integer account :: window.arguments) Transfer.ofCells

/-! ## Users and sessions -/

def insertUser (username fullName email passwordHash : String) :
    Interaction (Except Error User) :=
  fetchFirst .insertUser [.text username, .text fullName, .text email, .text passwordHash]
    User.ofCells

def user (username : String) : Interaction (Except Error User) :=
  fetchFirst .user [.text username] User.ofCells

/-- A session as it is opened. -/
structure Login where
  id : Uuid
  username : String
  accessToken : String
  accessExpiresAt : Timestamp
  refreshToken : String
  refreshExpiresAt : Timestamp
  userAgent : Option String
  clientIp : Option String
deriving DecidableEq

/-- Opens a session for a login. -/
def insertSession (l : Login) : Interaction (Except Error Session) :=
  fetchFirst .insertSession
    [.uuid l.id, .text l.username, .text l.accessToken, .instant l.accessExpiresAt,
      .text l.refreshToken, .instant l.refreshExpiresAt, .ofText? l.userAgent, .ofText? l.clientIp]
    Session.ofCells

def session (id : Uuid) : Interaction (Except Error Session) :=
  fetchFirst .session [.uuid id] Session.ofCells

/-- Gives a session another access token. -/
def setAccess (id : Uuid) (token : String) (expiresAt : Timestamp) :
    Interaction (Except Error Session) :=
  fetchFirst .setAccess [.uuid id, .text token, .instant expiresAt] Session.ofCells

/-- Whether the database answers. -/
def ping : Interaction (Except Error Unit) := command (.query .ping [])

end Teller.Store
