import Teller.Gateway.Failure
import Teller.Gateway.Headers
import Teller.Text.Blank
import Teller.Token.Maker

/-!
# Bearer authorization

    authorization: <scheme> <token>

The scheme is `bearer` in any case; blanks separate the two, and further fields are ignored.
-/

namespace Teller.Gateway.Bearer

/-- The only scheme that is accepted, in small letters. -/
def scheme : List Char := "bearer".toList

/-- The token of an authorization value. -/
def parse (value : String) : Except Failure String :=
  match Text.firstTwoFields? value.toList with
  | none => .error (.unauthorized "invalid authorization header format")
  | some (first, second) =>
    if first.map Char.toLower = scheme then .ok (String.ofList second)
    else .error (.unauthorized ("unsupported authorization type " ++ String.ofList first))

/-- The failure of a request without an authorization value. -/
def missing : Failure := ⟨401, Code.missingAuthorization, "authorization header is not provided"⟩

/-- The payload of the token that a request presents. -/
def authenticate (maker : Token.Maker) (now : Timestamp) (headers : Headers) :
    Except Failure Token.Payload := do
  match headers.text? "authorization" with
  | none => .error missing
  | some value =>
    let token ← parse value
    (maker.verify token now).mapError Failure.ofToken

end Teller.Gateway.Bearer
