import Teller.Gateway.Bearer
import Teller.Gateway.Request
import Teller.Gateway.View
import Teller.Store.Operation

/-!
# Answering a request

A handler interacts with the world and ends with the data of a successful answer or with a failure.
What the store reports becomes a failure that keeps its detail to itself; a row that is not there
can be named.
-/

namespace Teller.Gateway

/-- What the service does for a request, until a failure ends it. -/
abbrev Handler (α : Type) := ExceptT Failure Interaction α

namespace Handler

variable {α : Type}

/-- Ends at once, with a value or a failure. -/
def ofExcept (x : Except Failure α) : Handler α := ExceptT.mk (pure x)

/-- Asks the store. -/
def store (x : Interaction (Except Store.Error α)) : Handler α := do
  match ← x with
  | .ok a => return a
  | .error e => throw (.ofStore e)

/-- Asks the store for something that may not be there. -/
def find (absent : String) (x : Interaction (Except Store.Error α)) : Handler α := do
  match ← x with
  | .ok a => return a
  | .error e => if e.isNotFound then throw (.notFound absent) else throw (.ofStore e)

/-- The answer that a handler comes to. -/
def respond (x : Handler Json.Value) : Interaction Response := do
  match ← x.run with
  | .ok data => return .ok data
  | .error f => return .ofFailure f

end Handler

/-- What issues and verifies the tokens of users. -/
structure Authority where
  maker : Token.Maker
  accessLifetime : Duration
  refreshLifetime : Duration

namespace Authority

/-- Issues a token with an identifier and a nonce of its own, as of now. -/
def issue (auth : Authority) (username : String) (lifetime : Duration) :
    Handler (String × Token.Payload) := do
  let id ← Interaction.identifier
  let now ← Interaction.time .tokens
  let nonce ← Interaction.nonce
  .ofExcept ((auth.maker.create id nonce username lifetime now).mapError .ofToken)

/-- What a token says, if it is good now. -/
def verify (auth : Authority) (token : String) : Handler Token.Payload := do
  let now ← Interaction.time .tokens
  .ofExcept ((auth.maker.verify token now).mapError .ofToken)

/-- The payload of the token that a request presents. -/
def authenticate (auth : Authority) (headers : Headers) : Handler Token.Payload := do
  let now ← Interaction.time .tokens
  .ofExcept (Bearer.authenticate auth.maker now headers)

end Authority

/-- Reads the body of a request. -/
def Form.ofRequest {α : Type} (form : Form α) (r : Request) : Handler α :=
  .ofExcept (form.read r.headers r.body)

end Teller.Gateway
