import Teller.Store.Migration

/-!
# Migrating a database that follows a script

Statements of the bookkeeping are answered by the replies of a script, one after the other, and
commands by what the script says for them. Scripts and entries that reach the database are recorded.
-/

namespace Teller.Store.Migration

/-- A database to be migrated that replies as it was told to, and what became of the scripts. -/
structure Rehearsal where
  /-- Replies to the bookkeeping. A row without a version has zero in its place, and one without a
  checksum an empty one. -/
  replies : List (Except Cause (List Entry))
  /-- Replies to the commands whose text starts so; all others succeed. -/
  commands : List (String × Except Cause Unit)
  scripts : List String
  entered : List Migration

namespace Rehearsal

/-- A step with a rehearsal, which can fail for a cause. -/
abbrev Step := ExceptT Cause (StateM Rehearsal)

def ofReplies (replies : List (Except Cause (List Entry)))
    (commands : List (String × Except Cause Unit)) : Rehearsal :=
  ⟨replies, commands, [], []⟩

/-- The refusal of a statement after the end of the script. -/
def exhausted : Cause := .rejected (some "XX000") "script exhausted"

/-- The next reply to the bookkeeping. -/
def next : Step (List Entry) := fun s =>
  match s.replies with
  | [] => (.error exhausted, s)
  | reply :: rest => (reply, { s with replies := rest })

/-- The reply to a command, by the first text that it starts with. -/
def command (text : String) : Step Unit := fun s =>
  ((s.commands.find? fun c => text.startsWith c.1).elim (.ok ()) (·.2), s)

/-- The name of the database, then the lock that goes by this name. -/
def turnLock : Step Unit := do
  if (← next).isEmpty then throw .rowNotFound
  discard next

/-- A rehearsal as something to be migrated. -/
def target : Target (StateM Rehearsal) where
  lock := turnLock
  unlock := turnLock
  openJournal := command "CREATE TABLE IF NOT EXISTS"
  unfinished? := return (← next).head?.map (·.1)
  journal := next
  start := command "BEGIN"
  commit := command "COMMIT"
  execute script := do
    modify fun s => { s with scripts := s.scripts ++ [script] }
    command script
  enter x := do
    modify fun s => { s with entered := s.entered ++ [x] }
    discard next
  noteDuration _ := discard next

/-- What comes of migrating by a script. -/
def perform (s : Rehearsal) (known : List Migration) : Except Fault Unit × Rehearsal :=
  (run target known).run s

end Rehearsal

end Teller.Store.Migration
