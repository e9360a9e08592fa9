/-!
# Store errors

A statement fails for a cause. A unit of work that fails is rolled back, and if the rollback fails
as well both errors are kept: a store error is a binary tree with causes at its leaves.
-/

namespace Teller.Store

/-- Why the database did not do what it was asked. -/
inductive Cause where
  | rowNotFound
  | poolTimedOut
  | poolClosed
  | workerCrashed
  | beginFailed
  | protocol (detail : String)
  | columnNotFound (name : String)
  | columnDecode (column detail : String)
  /-- The database refused a statement, with its five-letter condition code if it gave one. -/
  | rejected (code : Option String) (detail : String)
  /-- The connection could not be made or broke. -/
  | connection (detail : String)
  /-- Any other failure, in its own words. -/
  | other (message : String)
deriving DecidableEq

/-- What the log is told of a cause. -/
def Cause.message : Cause → String
  | .rowNotFound => "no rows returned by a query that expected to return at least one row"
  | .poolTimedOut => "pool timed out while waiting for an open connection"
  | .poolClosed => "attempted to acquire a connection on a closed pool"
  | .workerCrashed => "attempted to communicate with a crashed background worker"
  | .beginFailed => "got unexpected connection status after attempting to begin transaction"
  | .protocol detail => "encountered unexpected or invalid data: " ++ detail
  | .columnNotFound name => "no column found for name: " ++ name
  | .columnDecode column detail =>
    "error occurred while decoding column " ++ column ++ ": " ++ detail
  | .rejected _ detail => "error returned from database: " ++ detail
  | .connection detail => "error communicating with database: " ++ detail
  | .other message => message

/-- The message, followed by the reason behind it. -/
def Cause.chain (c : Cause) : List String :=
  match c with
  | .columnDecode _ detail | .rejected _ detail | .connection detail => [c.message, detail]
  | _ => [c.message]

/-- An error of a unit of work: its cause, or two errors where the rollback has failed as well. -/
inductive Error where
  | database (cause : Cause)
  | rollback (work undo : Error)
deriving DecidableEq

namespace Error

/-- The log is told of every cause. -/
def message : Error → String
  | .database cause => "Database error: " ++ cause.message
  | .rollback work undo => "tx err: " ++ work.message ++ ", rb err: " ++ undo.message

/-- The cause that ended the unit of work, whatever happened to rollbacks after it. -/
def cause : Error → Cause
  | .database cause => cause
  | .rollback work _ => work.cause

/-- The leaf at which that cause stands. -/
def root (e : Error) : Error := .database e.cause

/-- The condition code of a value that must be unique and is there already. -/
def uniqueViolation : String := "23505"

/-- The condition code of a reference to a row that is not there, or from a row that still is. -/
def foreignKeyViolation : String := "23503"

/-- The SQLSTATE of the refusal, if the cause is one. -/
def conditionCode (e : Error) : Option String :=
  match e.cause with
  | .rejected code _ => code
  | _ => none

/-- Whether a row was asked for that does not exist. -/
def isNotFound (e : Error) : Bool := e.cause = .rowNotFound

/-- Whether a row was refused since another one has the same key. -/
def isUniqueViolation (e : Error) : Bool := e.conditionCode = some uniqueViolation

/-- Whether a change was refused since a reference would have no row. -/
def isForeignKeyViolation (e : Error) : Bool := e.conditionCode = some foreignKeyViolation

end Error

end Teller.Store
