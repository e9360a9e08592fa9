import Teller.Store.Operation

/-!
# A database that follows a script

Statements are answered by the replies of a script, one after the other, and commands by what the
script says for them. Everything that reaches the database is recorded.

A reply may depend on the statement, and it may be silence. A connection that broke inside a
transaction stays broken until its end, so nothing more of that transaction reaches the database.
-/

namespace Teller.Store

/-- A database that replies as it was told to, and what it was sent. -/
structure Script where
  /-- Replies to statements; `none` is silence. -/
  replies : List (Statement → Option Reply)
  /-- Replies to the commands whose text starts so; all others succeed. -/
  commands : List (String × Option Reply)
  /-- What has reached the database, the last first. -/
  recorded : List Request
  inTransaction : Bool
  isBroken : Bool

namespace Script

def ofReplies (replies : List (Statement → Option Reply))
    (commands : List (String × Option Reply)) : Script :=
  ⟨replies, commands, [], false, false⟩

/-- What the database has been sent, in order. -/
def trace (s : Script) : List Request := s.recorded.reverse

/-- The refusal of a statement after the end of the script. -/
def exhausted : Reply := .refused (some "XX000") "script exhausted"

/-- The reply to a command that went well. -/
def succeeded : Reply := .affected 0

/-- The reply to a command, by the first text that it starts with. -/
def commandReply (s : Script) (request : Request) : Option Reply :=
  ((s.commands.find? fun c => request.text.startsWith c.1).map (·.2)).getD (some succeeded)

/-- The script with one more request that has reached the database. -/
def record (s : Script) (request : Request) : Script :=
  { s with recorded := request :: s.recorded }

/-- The start of a transaction, on a connection that is sound. -/
def start (s : Script) : Option Reply × Script :=
  let reply := s.commandReply .start
  let started := match reply with
    | some (.rows _) | some (.affected _) => true
    | _ => false
  (reply, { s.record .start with inTransaction := started, isBroken := false })

/-- The end of a transaction, which leaves its connection behind. -/
def finish (s : Script) (request : Request) : Option Reply × Script :=
  if s.isBroken then (some .broken, { s with inTransaction := false, isBroken := false })
  else (s.commandReply request, { s.record request with inTransaction := false })

/-- The next reply is used up, unless the connection is broken already. -/
def query (s : Script) (statement : Statement) (arguments : List Value) :
    Option Reply × Script :=
  if s.isBroken then (some .broken, s)
  else
    let reply := match s.replies with
      | [] => some exhausted
      | next :: _ => next statement
    let broke := s.inTransaction && reply = some .broken
    (reply, { s.record (.query statement arguments) with
      replies := s.replies.tail, isBroken := broke })

/-- The reply to a request. -/
def answer (s : Script) : Request → Option Reply × Script
  | .start => s.start
  | .commit => s.finish .commit
  | .rollback => s.finish .rollback
  | .query statement arguments => s.query statement arguments

end Script

end Teller.Store
