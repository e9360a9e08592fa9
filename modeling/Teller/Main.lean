import Std.Time.DateTime.Timestamp
import Teller.Startup

/-!
# The program

Starts the service with the configuration of an environment:

    teller [--env NAME] [--port PORT]

It has no connection to a database of its own, so a start ends where the database is needed.
-/

namespace Teller

/-- The system clock. A clock outside the representable years counts as the start of 1970. -/
def systemClock : IO Timestamp := do
  let now ← Std.Time.Timestamp.now
  return (Timestamp.ofNanos? now.toNanosecondsSinceUnixEpoch.val).getD .epoch

/-- Why a file cannot be read. -/
def readFailure : IO.Error → String
  | .noFileOrDirectory .. => "No such file or directory (os error 2)"
  | .permissionDenied .. => "Permission denied (os error 13)"
  | .inappropriateType .. => "Is a directory (os error 21)"
  | e => toString e

/-- The text of a file, or why it could not be read. -/
def readText (path : String) : IO (Except String String) := do
  try
    return .ok (← IO.FS.readFile path)
  catch e => return .error (readFailure e)

/-- Writes the records of a run to the log file and to the standard output. -/
def writeLog (config : Config.Service) (records : List Logging.Record) (now : Timestamp) :
    IO Unit := do
  let rotation := Logging.Rotation.ofName config.rotation
  let file := Logging.fileName rotation config.logFile now
  IO.FS.createDirAll config.logDirectory
  let handle ← IO.FS.Handle.mk (config.logDirectory ++ "/" ++ file) .append
  for record in records do
    let line := now.text ++ " " ++ record.line
    if config.logsJson then
      handle.putStrLn (record.json [("timestamp", .text now.text)]).render
    else
      handle.putStrLn line
      IO.println line

/-- The program can reach no database. -/
def unconnected : Startup.Surroundings where
  connect _ := .error "no connection to a database is built in"
  migrate := .ok ()
  listen _ := .ok ()

end Teller

/-- Runs the service, and ends with 1 if it failed. -/
def main (args : List String) : IO UInt32 := do
  let now ← Teller.systemClock
  let text ← Teller.readText (Teller.Startup.configPath (Teller.Startup.environment args))
  let run := Teller.Startup.run args (fun _ => text) now Teller.unconnected
  if let some config := run.config then Teller.writeLog config run.records now
  for line in run.errorLines do IO.eprintln line
  return if run.failure.isSome then 1 else 0
