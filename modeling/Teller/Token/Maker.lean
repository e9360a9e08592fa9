import Teller.Token.Sealed
import Teller.Token.Signed

/-!
# Issuing and verifying tokens

A maker issues tokens of one kind under one key and verifies them. The clock, the identifiers and
the nonces come from outside.
-/

namespace Teller.Token

/-- Whether a token can be read by everybody or by nobody without the key. -/
inductive Kind where
  | signed
  | sealed
deriving DecidableEq

/-- What issues and verifies tokens: a key for one of the kinds. -/
inductive Maker where
  | signed (key : Signed.Key)
  | sealed (key : Sealed.Key)

namespace Maker

/-- The maker for a kind of token and a secret, whose size in bytes must suit the kind. -/
def ofSecret : Kind → String → Except Error Maker
  | .signed, secret => (Signed.Key.ofString? secret).map .signed
  | .sealed, secret => (Sealed.Key.ofString? secret).map .sealed

/-- The token that says this payload. Only a sealed one needs the nonce. -/
def write (maker : Maker) (nonce : Sealed.Nonce) (p : Payload) : String :=
  match maker with
  | .signed key => String.ofList (Signed.sign key p)
  | .sealed key => String.ofList (Sealed.hide key nonce p)

/-- A new token for `username` and what it says. -/
def create (maker : Maker) (id : Uuid) (nonce : Sealed.Nonce) (username : String)
    (lifetime : Duration) (now : Timestamp) : Except Error (String × Payload) := do
  let payload ← Payload.issue id username lifetime now
  return (maker.write nonce payload, payload)

/-- The payload of a genuine token, whether or not it has expired. -/
def authentic? (maker : Maker) (token : String) : Option Payload :=
  match maker with
  | .signed key => Signed.authentic? key token.toList
  | .sealed key => Sealed.authentic? key token.toList

/-- The payload of a genuine token that has not expired at `now`. -/
def verify (maker : Maker) (token : String) (now : Timestamp) : Except Error Payload :=
  match maker.authentic? token with
  | none => .error .invalid
  | some payload => do
    payload.checkExpiry now
    return payload

end Maker

end Teller.Token
