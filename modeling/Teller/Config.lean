import Teller.Decoder
import Teller.Time
import Teller.Token.Maker

/-!
# Configuration

What the service is started with: where it listens, which database it uses, how it logs, and which
tokens it issues for how long. Lifetimes of tokens are checked against the clock, so that a token
issued now has an expiry that can be represented.
-/

namespace Teller.Config

/-- The kind, the secret and the lifetimes in seconds of the tokens. -/
structure Tokens where
  kind : Token.Kind
  secret : String
  accessSeconds : Nat
  refreshSeconds : Nat
deriving DecidableEq

/-- Where the service listens, and how patient it is. -/
structure Gateway where
  host : String
  port : Nat
  /-- The longest time in milliseconds that a transfer may take. -/
  transferTimeout : Nat
deriving DecidableEq

/-- All that the service is told before it starts. -/
structure Service where
  logLevel : String
  logDirectory : String
  logFile : String
  logsJson : Bool
  rotation : String
  gateway : Gateway
  databaseUrl : String
  maxConnections : Nat
  tokens : Tokens
deriving DecidableEq

/-! ## Lifetimes -/

/-- A lifetime that cannot be granted, by the name of its setting. -/
structure LifetimeFault where
  setting : String
  seconds : Nat
deriving DecidableEq

/-- The setting by its name in the file, with the seconds it was set to. -/
def LifetimeFault.message (f : LifetimeFault) : String :=
  s!"token.{f.setting} out of range: {f.seconds}"

/-- A lifetime, cut down to the longest duration. -/
def lifetime (seconds : Nat) : Duration := (Duration.ofSeconds? seconds).getD Duration.max

namespace Tokens

/-- The name of the lifetime of access tokens in a file. -/
def accessSetting : String := "access_token_duration_secs"
/-- The name of the lifetime of refresh tokens in a file. -/
def refreshSetting : String := "refresh_token_duration_secs"

/-- How long an access token is good. -/
def accessLifetime (t : Tokens) : Duration := lifetime t.accessSeconds
/-- How long a refresh token is good. -/
def refreshLifetime (t : Tokens) : Duration := lifetime t.refreshSeconds

end Tokens

/-- Whether a token issued at `now` can last so long. -/
def isGrantable (now : Timestamp) (seconds : Nat) : Bool :=
  0 < seconds && ((Duration.ofSeconds? seconds).bind now.add?).isSome

/-- A lifetime is refused under the name of its setting. -/
def checkLifetime (now : Timestamp) (setting : String) (seconds : Nat) :
    Except LifetimeFault Unit :=
  if isGrantable now seconds then .ok () else .error ⟨setting, seconds⟩

/-- Checks the lifetime of access tokens, then that of refresh tokens. -/
def Tokens.validate (t : Tokens) (now : Timestamp) : Except LifetimeFault Unit := do
  checkLifetime now accessSetting t.accessSeconds
  checkLifetime now refreshSetting t.refreshSeconds

/-! ## Reading -/

/-- The names of the kinds of tokens. -/
def kindNames : List (String × Token.Kind) := [("jwt", .signed), ("encrypted", .sealed)]

section Reading

variable {ν ε : Type} (d : Decoder ν ε)

/-- A name stands for the first kind if no other has it. -/
def readKind (v : ν) : Except ε Token.Kind := do
  let name ← d.choice (kindNames.map (·.1)) v
  return (kindNames.lookup name).getD .signed

/-- The settings of tokens as far as they have been read. -/
structure Tokens.Draft where
  kind : Option Token.Kind
  secret : Option String
  accessSeconds : Option Nat
  refreshSeconds : Option Nat

/-- Every setting of tokens has to be given. -/
def Tokens.read : ν → Except ε Tokens :=
  d.record "TokenConfig"
    [.of "kind" (·.kind) (fun x s => { s with kind := some x }) (readKind d),
      .of "symmetric_key" (·.secret) (fun x s => { s with secret := some x }) d.text,
      .of accessSetting (·.accessSeconds) (fun x s => { s with accessSeconds := some x })
        (d.natural 64),
      .of refreshSetting (·.refreshSeconds) (fun x s => { s with refreshSeconds := some x })
        (d.natural 64)]
    (⟨none, none, none, none⟩ : Tokens.Draft)
    fun s => do
      return ⟨← required "kind" s.kind, ← required "symmetric_key" s.secret,
        ← required accessSetting s.accessSeconds, ← required refreshSetting s.refreshSeconds⟩

/-- The settings of the gateway as far as they have been read. -/
structure Gateway.Draft where
  host : Option String
  port : Option Nat
  transferTimeout : Option Nat

/-- Transfers have five seconds unless something else is said. -/
def Gateway.standardTimeout : Nat := 5000

/-- Host and port have to be given. -/
def Gateway.read : ν → Except ε Gateway :=
  d.record "GatewayConfig"
    [.of "host" (·.host) (fun x s => { s with host := some x }) d.text,
      .of "port" (·.port) (fun x s => { s with port := some x }) (d.natural 16),
      .of "transfer_timeout_ms" (·.transferTimeout)
        (fun x s => { s with transferTimeout := some x })
        (d.natural 64)]
    (⟨none, none, none⟩ : Gateway.Draft)
    fun s => do
      return ⟨← required "host" s.host, ← required "port" s.port,
        s.transferTimeout.getD standardTimeout⟩

/-- The settings of the service as far as they have been read. -/
structure Service.Draft where
  logLevel : Option String
  logDirectory : Option String
  logFile : Option String
  logsJson : Option Bool
  rotation : Option String
  gateway : Option Gateway
  databaseUrl : Option String
  maxConnections : Option Nat
  tokens : Option Tokens

/-- Nothing has been read yet. -/
def Service.Draft.empty : Draft := ⟨none, none, none, none, none, none, none, none, none⟩

/-- How many connections to the database are kept unless something else is said. -/
def Service.standardConnections : Nat := 20

/-- The settings if none is missing; the first that is missing is told. -/
def Service.Draft.complete (s : Draft) : Except Mismatch Service := do
  return ⟨← required "log_level" s.logLevel, ← required "log_dir" s.logDirectory,
    ← required "log_file" s.logFile, ← required "use_json" s.logsJson,
    ← required "rotation" s.rotation, ← required "gateway" s.gateway,
    ← required "postgres_url" s.databaseUrl, s.maxConnections.getD standardConnections,
    ← required "token" s.tokens⟩

/-- The whole configuration, each setting by the name it has in a file. -/
def Service.read : ν → Except ε Service :=
  d.record "AppConfig"
    [.of "log_level" (·.logLevel) (fun x s => { s with logLevel := some x }) d.text,
      .of "log_dir" (·.logDirectory) (fun x s => { s with logDirectory := some x }) d.text,
      .of "log_file" (·.logFile) (fun x s => { s with logFile := some x }) d.text,
      .of "use_json" (·.logsJson) (fun x s => { s with logsJson := some x }) d.boolean,
      .of "rotation" (·.rotation) (fun x s => { s with rotation := some x }) d.text,
      .of "gateway" (·.gateway) (fun x s => { s with gateway := some x }) (Gateway.read d),
      .of "postgres_url" (·.databaseUrl) (fun x s => { s with databaseUrl := some x }) d.text,
      .of "postgres_max_connections" (·.maxConnections)
        (fun x s => { s with maxConnections := some x }) (d.natural 32),
      .of "token" (·.tokens) (fun x s => { s with tokens := some x }) (Tokens.read d)]
    Service.Draft.empty Service.Draft.complete

end Reading

end Teller.Config
