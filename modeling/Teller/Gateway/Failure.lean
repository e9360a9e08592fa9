import Teller.Json.Value
import Teller.Password
import Teller.Store.Error
import Teller.Token.Payload

/-!
# What a client is told

Every answer is an object with an application code, a short message and, on success, the data. A
failure also has an HTTP status. What a failing store, token or password check is converted to tells
the client its category and keeps its detail.
-/

namespace Teller.Gateway

/-- What a client is told of a request that fails: a status, a code and a message. -/
structure Failure where
  status : Nat
  code : Int
  message : String
deriving DecidableEq

namespace Code

def success : Int := 0
def invalidParameter : Int := 1001
def currencyMismatch : Int := 1002
def missingAuthorization : Int := 2001
def authorizationFailed : Int := 2002
def tokenExpired : Int := 2003
def permissionDenied : Int := 2004
def constraintViolation : Int := 3001
def notFound : Int := 4001
def internalError : Int := 5000
def serviceUnavailable : Int := 5001
def timeout : Int := 5002

end Code

namespace Failure

/-- The request itself is at fault. -/
def badRequest (message : String) : Failure := ⟨400, Code.invalidParameter, message⟩
/-- Who asks has not shown who they are. -/
def unauthorized (message : String) : Failure := ⟨401, Code.authorizationFailed, message⟩
/-- The database does not admit what is asked for. -/
def forbidden (message : String) : Failure := ⟨403, Code.constraintViolation, message⟩
/-- What is asked for does not exist. -/
def notFound (message : String) : Failure := ⟨404, Code.notFound, message⟩
def internal (message : String) : Failure := ⟨500, Code.internalError, message⟩
/-- The database could not be reached. -/
def serviceUnavailable (message : String) : Failure := ⟨503, Code.serviceUnavailable, message⟩

/-- What is said where the detail stays inside. -/
def unexplained : Failure := internal "Internal error"

/-- Of an error of the store a client is told only what kind it is. -/
def ofStore (e : Store.Error) : Failure :=
  if e.isNotFound then notFound "Record not found"
  else if e.isUniqueViolation || e.isForeignKeyViolation then forbidden "constraint violation"
  else unexplained

/-- An expired token is told from an invalid one, and nothing else is explained. -/
def ofToken : Token.Error → Failure
  | .expired => ⟨401, Code.tokenExpired, Token.Error.expired.message⟩
  | .invalid => unauthorized Token.Error.invalid.message
  | _ => unexplained

/-- A wrong password is told in words that do not say whether the user exists. -/
def ofPassword : Password.Error → Failure
  | .mismatch => unauthorized "Invalid username or password"
  | .unusable _ => unexplained

end Failure

/-- An HTTP answer; `allow` lists the methods of a path that was asked for with another one. -/
structure Response where
  status : Nat
  contentType : Option String
  allow : Option String
  body : String

namespace Response

/-- A response whose body is the text of a value. -/
def json (status : Nat) (body : Json.Value) : Response :=
  ⟨status, some "application/json", none, body.render⟩

/-- A successful answer. -/
def ok (data : Json.Value) : Response :=
  json 200 (.object [("code", .integer Code.success), ("msg", .text "ok"), ("data", data)])

/-- A failure as a response, its code and its message in an object. -/
def ofFailure (f : Failure) : Response :=
  json f.status (.object [("code", .integer f.code), ("msg", .text f.message)])

end Response

end Teller.Gateway
