import Teller.Crypto.Argon2
import Teller.Password.Encoded

/-!
# Passwords

A password is stored as a salted hash that is slow to compute. To check one, the hash is computed
again as the stored text says, with its variant, version, cost and salt, and compared.
-/

namespace Teller.Password

/-- A password that is not accepted: it is another one, or the stored text is of no use. -/
inductive Error where
  | unusable (fault : Fault)
  | mismatch
deriving DecidableEq

/-- What the log is told of a password that is not accepted. -/
def Error.message : Error → String
  | .unusable fault => "Hashing failed: " ++ fault.message
  | .mismatch => "Password does not match"

/-- The cost of new hashes. -/
def defaultCost : Crypto.Argon2.Cost := ⟨19456, 2, 1⟩

/-- Parameters read so far: the cost, and data hashed with the password. -/
structure Settings where
  cost : Crypto.Argon2.Cost
  associated : List UInt8

/-- Takes in one parameter; a later one of the same name wins. -/
def Settings.take (s : Settings) : List Char × List Char → Except Fault Settings
  | (['m'], v) => do
    return { s with cost := { s.cost with memory := ← (Encoded.decimal v).mapError .badValue } }
  | (['t'], v) => do
    return { s with cost := { s.cost with passes := ← (Encoded.decimal v).mapError .badValue } }
  | (['p'], v) => do
    return { s with cost := { s.cost with lanes := ← (Encoded.decimal v).mapError .badValue } }
  | (['k', 'e', 'y', 'i', 'd'], v) => do
    let _ ← Encoded.bytes 8 v
    return s
  | (['d', 'a', 't', 'a'], v) => do return { s with associated := ← Encoded.bytes 32 v }
  | _ => .error .badName

/-- At least one pass, one lane and eight blocks for each lane. -/
def checkCost (c : Crypto.Argon2.Cost) : Except Fault Unit :=
  if c.memory < 8 ∨ c.passes < 1 ∨ c.lanes < 1 then .error (.badValue .tooShort)
  else if c.lanes ≥ 1 <<< 24 then .error (.badValue .tooLong)
  else if c.memory < 8 * c.lanes then .error (.badValue .tooShort)
  else .ok ()

/-- The settings of a stored hash. What its parameters do not say is as usual. -/
def settings (parameters : List (List Char × List Char)) : Except Fault Settings := do
  let s ← parameters.foldlM Settings.take ⟨defaultCost, []⟩
  checkCost s.cost
  return s

/-- The variants by name. -/
def variants : List (String × Crypto.Argon2.Variant) :=
  [("argon2d", .dependent), ("argon2i", .independent), ("argon2id", .hybrid)]

/-- The variant with this name. -/
def variant (name : List Char) : Except Fault Crypto.Argon2.Variant :=
  match variants.lookup (String.ofList name) with
  | some v => .ok v
  | none => .error .unknownAlgorithm

/-- The version with this number, and the second one if none is given. -/
def version : Option Nat → Except Fault Crypto.Argon2.Version
  | none | some 19 => .ok .second
  | some 16 => .ok .first
  | some _ => .error .unknownVersion

/-- The salt of a stored hash, of at least eight bytes. -/
def saltBytes (text : List Char) : Except Fault (List UInt8) := do
  let salt ← Encoded.bytes 64 text
  if salt.length < 8 then throw (.badSalt .tooShort) else return salt

/-- The hash of `password` computed the way a stored one of `size` bytes was. -/
def recompute (password : String) (e : Encoded) (salt : List Char) (size : Nat) :
    Except Fault (List UInt8) := do
  let s ← settings e.parameters
  let v ← variant e.algorithm
  let n ← version e.version
  let salt ← saltBytes salt
  return Crypto.Argon2.hash ⟨v, n, s.cost, size⟩ (Utf8.ofString password) salt s.associated

/-- Accepts the password that `stored` was made from. -/
def check (password stored : String) : Except Error Unit := do
  let e ← (Encoded.ofChars? stored.toList).mapError .unusable
  match e.salt, e.output with
  | some salt, some output =>
    let computed ← (recompute password e salt output.length).mapError .unusable
    if computed = output then return () else throw .mismatch
  | _, _ => throw .mismatch

/-- Sixteen bytes that nobody can guess. -/
structure Salt where
  bytes : List UInt8
  exact : bytes.length = 16

/-- The salt that the lowest 128 bits of a number spell. -/
def Salt.ofNat (n : Nat) : Salt := ⟨Bytes.bigEndian 16 n, by simp⟩

/-- The text to store for a new password. -/
def hash (salt : Salt) (password : String) : String :=
  let output := Crypto.Argon2.hash ⟨.hybrid, .second, defaultCost, 32⟩ (Utf8.ofString password)
    salt.bytes []
  Encoded.text "argon2id" 19
    [("m", defaultCost.memory), ("t", defaultCost.passes), ("p", defaultCost.lanes)]
    salt.bytes output

end Teller.Password
