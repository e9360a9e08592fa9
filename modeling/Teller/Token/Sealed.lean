import Teller.Crypto.Gcm
import Teller.Text.Base64
import Teller.Token.Payload

/-!
# Sealed tokens

    v2.local. base64(nonce, encrypted payload, tag)

Nobody without the key can read or make a sealed token. The text before the base64 part is
authenticated with the payload.
-/

namespace Teller.Token.Sealed

/-- A key of exactly 32 bytes. -/
structure Key where
  bytes : List UInt8
  exact : bytes.length = 32

/-- The key that the secret spells, if it has 32 bytes. -/
def Key.ofString? (secret : String) : Except Error Key :=
  let bytes := Utf8.ofString secret
  if h : bytes.length = 32 then .ok ⟨bytes, h⟩ else .error (.keyWrongSize 32)

/-- The cipher that the key is for. -/
def Key.cipher (key : Key) : Crypto.Gcm.Key := .ofBytes key.bytes

/-- Twelve bytes that must not repeat under one key. -/
structure Nonce where
  bytes : List UInt8
  exact : bytes.length = 12

/-- The nonce that the lowest 96 bits of a number spell. -/
def Nonce.ofNat (n : Nat) : Nonce := ⟨Bytes.bigEndian 12 n, by simp⟩

def label : List Char := "v2.local.".toList

/-- The token that hides `plaintext`. -/
def close (key : Key) (nonce : Nonce) (plaintext : List UInt8) : List Char :=
  let hidden := Crypto.Gcm.encrypt key.cipher nonce.bytes (Utf8.encode label) plaintext
  label ++ Base64.encode Base64.urlSafe (nonce.bytes ++ hidden)

/-- What a token hides, if it was made under this key. -/
def reveal? (key : Key) (token : List Char) : Option (List UInt8) :=
  if token.take label.length = label then do
    let bytes ← Base64.decode Base64.urlSafe (token.drop label.length)
    if bytes.length < 12 then none
    else Crypto.Gcm.decrypt? key.cipher (bytes.take 12) (Utf8.encode label) (bytes.drop 12)
  else none

/-- The token of a payload. -/
def hide (key : Key) (nonce : Nonce) (p : Payload) : List Char :=
  close key nonce (Utf8.encode p.toJson.chars)

/-- The payload of a genuine token, whether or not it has expired. -/
def authentic? (key : Key) (token : List Char) : Option Payload :=
  (reveal? key token).bind Payload.ofJson?

end Teller.Token.Sealed
