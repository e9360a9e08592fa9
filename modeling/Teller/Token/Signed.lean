import Teller.Crypto.Sha256
import Teller.Text.Base64
import Teller.Token.Claims
import Teller.Token.Payload

/-!
# Signed tokens

    base64(header) . base64(payload) . base64(HMAC-SHA-256 of all before the second point)

Anyone can read a signed token; only holders of the key can make one. The signature is compared as
text before the payload is looked at.
-/

namespace Teller.Token.Signed

/-- A key of at least 32 bytes. -/
structure Key where
  bytes : List UInt8
  long : 32 ≤ bytes.length

/-- The key that the secret spells, if it has 32 bytes or more. -/
def Key.ofString? (secret : String) : Except Error Key :=
  let bytes := Utf8.ofString secret
  if h : 32 ≤ bytes.length then .ok ⟨bytes, h⟩ else .error (.keyTooSmall 32)

/-- A part of a token: bytes as text that can stand in a URL. -/
def segment (bytes : List UInt8) : List Char := Base64.encode Base64.urlSafe bytes

/-- The header segment of every token issued here. -/
def header : List Char := segment (Utf8.encode Header.standard.chars)

/-- The signature segment for a message. -/
def signature (key : Key) (message : List Char) : List Char :=
  segment (Crypto.Sha256.hmac key.bytes (Utf8.encode message))

/-- The token of a payload. -/
def sign (key : Key) (p : Payload) : List Char :=
  let message := header ++ '.' :: segment (Utf8.encode p.toJson.chars)
  message ++ '.' :: signature key message

/-- A text cut at its last point. -/
def cutLast (text : List Char) : Option (List Char × List Char) :=
  match text.reverse.span (· ≠ '.') with
  | (_, []) => none
  | (after, _ :: before) => some (before.reverse, after.reverse)

/-- The algorithm named by a header segment. -/
def algorithmOf? (segment : List Char) : Option String :=
  (Base64.decode Base64.urlSafe segment).bind Header.algorithmOf?

/-- The payload in a claims segment, its registered claims being acceptable. -/
def payloadOf? (segment : List Char) : Option Payload := do
  let bytes ← Base64.decode Base64.urlSafe segment
  let payload ← Payload.ofJson? bytes
  if Claims.acceptable bytes then some payload else none

/-- The payload of a token with a genuine signature, whether or not it has expired. -/
def authentic? (key : Key) (token : List Char) : Option Payload := do
  let (message, tail) ← cutLast token
  let (head, body) ← cutLast message
  let named ← algorithmOf? head
  if named = Header.algorithm ∧ tail = signature key message then payloadOf? body else none

end Teller.Token.Signed
