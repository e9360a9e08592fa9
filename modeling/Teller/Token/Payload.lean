import Teller.Json.Record
import Teller.Time
import Teller.Uuid

/-!
# What a token says

A payload names a subject for a span of time. As JSON it is an object of four registered claims,
`jti`, `sub`, `iat` and `exp`; the times are whole seconds since 1970, so a fraction of a second is
lost in writing.
-/

namespace Teller.Token

/-- Why a token is not issued or not accepted. -/
inductive Error where
  | keyTooSmall (least : Nat)
  | keyWrongSize (expected : Nat)
  | invalid
  | expired
  | durationOutOfRange
deriving DecidableEq

/-- What is told of a token that was not issued or not accepted. -/
def Error.message : Error → String
  | .keyTooSmall least => s!"invalid key size: must be at least {least} bytes"
  | .keyWrongSize expected => s!"invalid key size: must be exactly {expected} bytes"
  | .invalid => "token is invalid"
  | .expired => "token has expired"
  | .durationOutOfRange => "failed to issue token: duration out of range"

/-- The subject of a token and the span of time for which it is good. -/
structure Payload where
  id : Uuid
  username : String
  issuedAt : Timestamp
  expiredAt : Timestamp
deriving DecidableEq

namespace Payload

/-- A payload issued in the second of `now` that lasts for `lifetime` from the start of it. -/
def issue (id : Uuid) (username : String) (lifetime : Duration) (now : Timestamp) :
    Except Error Payload :=
  match now.floor.add? lifetime with
  | some expiredAt => .ok ⟨id, username, now.floor, expiredAt⟩
  | none => .error .durationOutOfRange

/-- A payload is good up to and including the instant it expires at. -/
def checkExpiry (p : Payload) (now : Timestamp) : Except Error Unit :=
  if p.expiredAt < now then .error .expired else .ok ()

/-- The payload as the claims of a token, with times in whole seconds. -/
def toJson (p : Payload) : Json.Value :=
  .object [("jti", .text (toString p.id)), ("sub", .text p.username),
    ("iat", .integer p.issuedAt.second), ("exp", .integer p.expiredAt.second)]

/-- The JSON text of a payload. -/
def render (p : Payload) : String := p.toJson.render

/-- The fields of a payload that were read so far. -/
structure Draft where
  id : Option Uuid
  username : Option String
  issuedAt : Option Timestamp
  expiredAt : Option Timestamp

/-- No claim has been read yet. -/
def Draft.empty : Draft := ⟨none, none, none, none⟩

/-- A payload has all four claims. -/
def Draft.complete (d : Draft) : Except Mismatch Payload := do
  return ⟨← Json.require "jti" d.id, ← Json.require "sub" d.username,
    ← Json.require "iat" d.issuedAt, ← Json.require "exp" d.expiredAt⟩

open Json Json.Reader in
/-- Reads an identifier from a text that spells one. -/
def readUuid : Reader Uuid := do
  match Uuid.ofChars? (← text).toList with
  | some id => return id
  | none => fail .refused

open Json Json.Reader in
/-- A whole number of seconds since 1970. -/
def readSecond : Reader Timestamp := do
  match Timestamp.ofSeconds? (← int64).toInt with
  | some t => return t
  | none => fail .refused

/-- The four claims. Others are skipped. -/
def slots : List (Json.Slot Draft) := [
  .of "jti" (·.id) (fun x d => { d with id := some x }) readUuid,
  .of "sub" (·.username) (fun x d => { d with username := some x }) Json.Reader.text,
  .of "iat" (·.issuedAt) (fun x d => { d with issuedAt := some x }) readSecond,
  .of "exp" (·.expiredAt) (fun x d => { d with expiredAt := some x }) readSecond]

/-- Reads a payload. -/
def reader : Json.Reader Payload := Json.Reader.record "Payload" slots .empty Draft.complete

/-- The payload with this JSON text, unless the text is no payload. -/
def ofJson? (bytes : List UInt8) : Option Payload := (Json.Reader.all reader bytes).toOption

end Payload

end Teller.Token
