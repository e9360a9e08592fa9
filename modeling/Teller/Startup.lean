import Teller.Config
import Teller.Logging
import Teller.Store.Migration
import Teller.Yaml.Decoder

/-!
# Starting the service

The configuration is read and the lifetimes of tokens are checked. Then the log is opened, with
“Starting simple_bank” as its first record, and the token maker is made of its secret. Last the
database is connected to and its schema is brought up to date, and the service listens.

Whatever goes wrong on the way ends the program, with an account of the causes on the standard error
output.
-/

namespace Teller.Startup

/-! ## Command line -/

/-- The value after the first of the given options that has one. -/
def optionValue? (names : List String) : List String → Option String
  | arg :: value :: rest =>
    if names.contains arg then some value else optionValue? names (value :: rest)
  | _ => none

/-- The environment, whose name is that of its configuration file. -/
def environment (args : List String) : String := (optionValue? ["--env", "-e"] args).getD "dev"

/-- A decimal number, with or without a plus sign, that fits in 16 bits. -/
def port? (s : String) : Option Nat :=
  let cs := s.toList
  let digits := if cs.head? = some '+' then cs.tail else cs
  if digits.isEmpty ∨ !digits.all Yaml.isDigit then none
  else some (digits.foldl (fun n c => n * 10 + (c.toNat - 48)) 0) |>.filter (· < 65536)

/-- The port that replaces the configured one. -/
def portOverride? (args : List String) : Option Nat := (optionValue? ["--port"] args).bind port?

/-! ## Failures -/

/-- Why the service did not start, or why it stopped. -/
inductive Failure where
  | unreadable (path reason : String)
  | malformed (path : String) (cause : Yaml.Failure)
  | lifetime (fault : Config.LifetimeFault)
  | maker (cause : Token.Error)
  | databaseUrl (reason : String)
  | connection (reason : String)
  | migration (fault : Store.Migration.Fault)
  | listening (host : String) (port : Nat) (reason : String)

namespace Failure

/-- What failed. -/
def message : Failure → String
  | .unreadable path _ => "Failed to read config file: " ++ path
  | .malformed path _ => "Failed to parse " ++ path
  | .lifetime fault => fault.message
  | .maker _ => "Failed to create token maker"
  | .databaseUrl _ | .connection _ => "Failed to connect to PostgreSQL"
  | .migration _ => "Failed to run database migrations"
  | .listening host port reason =>
    s!"Failed to bind to {host}:{port}: {reason} (port {port} may already be in use)"

/-- Why, from the nearest cause to the last. -/
def causes : Failure → List String
  | .unreadable _ reason => [reason]
  | .malformed _ cause => [cause.message]
  | .lifetime _ => []
  | .maker cause => [cause.message]
  | .databaseUrl reason => ["error with configuration: " ++ reason, reason]
  | .connection reason => (Store.Cause.connection reason).chain
  | .migration fault => fault.causes
  | .listening .. => []

/-- Causes are numbered if there are several. -/
def causeLines : List String → List String
  | [] => []
  | [cause] => ["", "Caused by:", "    " ++ cause]
  | causes => ["", "Caused by:"] ++ causes.mapIdx fun i cause => s!"    {i}: {cause}"

/-- The account of a failure, in lines. -/
def report (f : Failure) : List String := ("Error: " ++ f.message) :: causeLines f.causes

end Failure

/-! ## The configuration -/

/-- Each environment has a file of its own. -/
def configPath (environment : String) : String := "config/" ++ environment ++ ".yaml"

/-- Reads the configuration of an environment; `readFile` gives a file's text, or the reason why it
cannot be read. -/
def loadConfig (readFile : String → Except String String) (environment : String) (now : Timestamp) :
    Except Failure Config.Service := do
  let path := configPath environment
  let text ← (readFile path).mapError (.unreadable path)
  let config ← (Yaml.read (Config.Service.read Yaml.decoder) text).mapError (.malformed path)
  (config.tokens.validate now).mapError .lifetime
  return config

/-! ## The way to the database -/

/-- Whether a URL starts with a scheme. -/
def hasScheme (url : String) : Bool :=
  let (scheme, rest) := url.toList.span fun c => c.isAlphanum || c = '+' || c = '-' || c = '.'
  scheme.head?.any Char.isAlpha && rest.head? = some ':'

/-- What the program needs from outside to get from its configuration to a listening service: the
reason why the database cannot be reached, why its schema cannot be brought up to date, and why
nothing can listen. -/
structure Surroundings where
  connect : Config.Service → Except String Unit
  migrate : Except Store.Migration.Fault Unit
  listen : Config.Gateway → Except String Unit

/-! ## A run -/

/-- A start writes records, also when it fails. -/
abbrev Start := ExceptT Failure (StateM (List Logging.Record))

/-- Goes on with a success, and ends the start with a failure. -/
def ofExcept {α : Type} : Except Failure α → Start α
  | .ok x => pure x
  | .error f => throw f

/-- Notes an event of a part of the program. -/
def note (target message : String) (fields : List (String × Json.Value)) : Start Unit :=
  modify (· ++ [⟨.info, target, message, fields⟩])

/-- From a configuration to a service that listens. -/
def start (around : Surroundings) (environment : String) (config : Config.Service) :
    Start Unit := do
  note "simple_bank" "Starting simple_bank" [("env", .text environment)]
  let _ ← ofExcept ((Token.Maker.ofSecret config.tokens.kind config.tokens.secret).mapError .maker)
  if !hasScheme config.databaseUrl then throw (.databaseUrl "relative URL without a base")
  ofExcept ((around.connect config).mapError .connection)
  note "simple_bank::db" "PostgreSQL connection pool established"
    [("max_connections", .integer config.maxConnections)]
  ofExcept (around.migrate.mapError .migration)
  note "simple_bank::db" "Database migrations applied" []
  let { host, port, .. } := config.gateway
  ofExcept ((around.listen config.gateway).mapError (.listening host port))
  note "simple_bank::gateway" "Gateway listening" [("addr", .text s!"{host}:{port}")]

/-- What is kept quiet besides what the configuration says. -/
def quietly (level : String) : Logging.Filter := .ofText (level ++ ",sqlx=warn")

/-- What a run leaves behind: the log file it opened and the records in it, lines on the standard
error output, and the failure that ended it. -/
structure Run where
  config : Option Config.Service
  records : List Logging.Record
  errorLines : List String
  failure : Option Failure

/-- Starts the service. -/
def run (args : List String) (readFile : String → Except String String) (now : Timestamp)
    (around : Surroundings) : Run :=
  let env := environment args
  match loadConfig readFile env now with
  | .error f => ⟨none, [], f.report, some f⟩
  | .ok loaded =>
    let config := { loaded with gateway.port := (portOverride? args).getD loaded.gateway.port }
    let filter := quietly config.logLevel
    let refusals := filter.refused.map Logging.Filter.refusal
    let (outcome, written) := (start around env config).run []
    let records := written.filter filter.admits
    match outcome with
    | .ok () => ⟨some config, records, refusals, none⟩
    | .error f => ⟨some config, records, refusals ++ f.report, some f⟩

end Teller.Startup
