import Teller.Gateway.Transfers
import Teller.Gateway.Users

/-!
# Routes

    public     GET  /health
               POST /users
               POST /users/login
               POST /tokens/renew_access
    bearer     POST /accounts          GET /accounts?offset&limit
               GET  /accounts/ID       DELETE /accounts/ID
               POST /transfers

A path that is none of these is not found, whoever asks. A method that a path does not have is
refused, on a guarded path only to those who present a token. A request for the head alone is
answered as one for the whole, without the body.
-/

namespace Teller.Gateway

/-- What anybody can ask for. -/
inductive OpenEndpoint where
  | health
  | signUp
  | login
  | renew
deriving DecidableEq

/-- What the holder of a token can ask for; a number in the path is still text. -/
inductive GuardedEndpoint where
  | openAccount
  | listAccounts
  | readAccount (id : String)
  | closeAccount (id : String)
  | transfer
deriving DecidableEq

/-- A route that is open to everybody, or one that asks for a token. -/
inductive Endpoint where
  | free (endpoint : OpenEndpoint)
  | guarded (endpoint : GuardedEndpoint)
deriving DecidableEq

/-- The methods of a path, in the order in which they are told. -/
def endpoints (path : String) : List (String × Endpoint) :=
  match path.toList.splitOn '/' with
  | [[], segment] =>
    match String.ofList segment with
    | "health" => [("GET", .free .health)]
    | "users" => [("POST", .free .signUp)]
    | "accounts" => [("POST", .guarded .openAccount), ("GET", .guarded .listAccounts)]
    | "transfers" => [("POST", .guarded .transfer)]
    | _ => []
  | [[], first, second] =>
    match String.ofList first, String.ofList second with
    | "users", "login" => [("POST", .free .login)]
    | "tokens", "renew_access" => [("POST", .free .renew)]
    | "accounts", "" => []
    | "accounts", id =>
      [("GET", .guarded (.readAccount id)), ("DELETE", .guarded (.closeAccount id))]
    | _, _ => []
  | _ => []

/-- Asks the database for a sign of life. -/
def health : Handler Json.Value := do
  match ← Store.ping with
  | .error _ => throw (.serviceUnavailable "unavailable")
  | .ok () =>
    let now ← Interaction.time .wall
    return .object [("timestamp_ms", .integer (now.nanos / 1000000))]

/-- Answers at an endpoint for the subject of a token. -/
def actFor (payload : Token.Payload) (r : Request) : GuardedEndpoint → Handler Json.Value
  | .openAccount => Gateway.openAccount payload r
  | .listAccounts => Gateway.listAccounts payload r
  | .readAccount id => Gateway.readAccount payload id
  | .closeAccount id => Gateway.closeAccount payload id
  | .transfer => Gateway.transfer payload r

/-- Answers at an endpoint. -/
def serve (auth : Authority) (r : Request) : Endpoint → Handler Json.Value
  | .free .health => Gateway.health
  | .free .signUp => Gateway.signUp r
  | .free .login => Gateway.login auth r
  | .free .renew => Gateway.renew auth r
  | .guarded endpoint => do actFor (← auth.authenticate r.headers) r endpoint

namespace Response

/-- The answer to a path that is no route. -/
def notFound : Response := ⟨404, none, none, ""⟩

/-- The answer to a method that the path does not have. -/
def methodNotAllowed : Response := ⟨405, none, none, ""⟩

/-- Tells the methods there are. -/
def telling (methods : List String) (r : Response) : Response :=
  let told := methods.flatMap fun m => if m = "GET" then ["GET", "HEAD"] else [m]
  { r with allow := some (",".intercalate told) }

/-- The response as it goes to whoever asked for its head alone. -/
def withoutBody (r : Response) : Response := { r with body := "" }

end Response

/-- Whether the route asks for a token. -/
def Endpoint.isGuarded : Endpoint → Bool
  | .free _ => false
  | .guarded _ => true

/-- The refusal of a method that a path does not have. -/
def refuse (auth : Authority) (r : Request) (isGuarded : Bool) : Interaction Response := do
  if isGuarded then
    match ← (auth.authenticate r.headers).run with
    | .error f => return .ofFailure f
    | .ok _ => return .methodNotAllowed
  else return .methodNotAllowed

/-- The answer to a request, its body included. -/
def answer (auth : Authority) (r : Request) : Interaction Response :=
  let offered := endpoints r.path
  if offered.isEmpty then return .notFound
  else
    match offered.lookup (if r.method = "HEAD" then "GET" else r.method) with
    | some endpoint => (serve auth r endpoint).respond
    | none => do
      let refusal ← refuse auth r (offered.any fun e => e.2.isGuarded)
      return refusal.telling (offered.map (·.1))

/-- The answer to a request. -/
def handle (auth : Authority) (r : Request) : Interaction Response := do
  let response ← answer auth r
  return if r.method = "HEAD" then response.withoutBody else response

end Teller.Gateway
