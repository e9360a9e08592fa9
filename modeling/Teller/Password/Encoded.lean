import Teller.Text.Base64
import Teller.Text.Utf8

/-!
# Stored password hashes as text

    $ algorithm $ v=version $ name=value,name=value $ salt $ output

The version, the parameters, the salt and the output may be left out from the right, and the version
and the parameters also from the middle: a field that begins with `v=` and has no comma is a
version, and a field with an equals sign after it is the parameters.
-/

namespace Teller.Password

/-- What is wrong with the text of a value. -/
inductive BadValue where
  | tooShort
  | tooLong
  | malformed
  | notCanonical
  | character (c : Char)
deriving DecidableEq

/-- What is said of a value that a parameter or a salt cannot have. -/
def BadValue.message : BadValue → String
  | .tooShort => "value to short"
  | .tooLong => "value to long"
  | .malformed => "value malformed"
  | .notCanonical => "value format is invalid"
  | .character c => "contains invalid character: '" ++ String.singleton c ++ "'"

/-- Why a stored hash cannot be used. -/
inductive Fault where
  | missingField
  | trailingField
  | badName
  | badValue (why : BadValue)
  | badSalt (why : BadValue)
  | tooManyParameters
  | base64Length
  | base64Letters
  | outputTooShort
  | unknownAlgorithm
  | unknownVersion
deriving DecidableEq

/-- What is said of a text that is no stored hash. -/
def Fault.message : Fault → String
  | .missingField => "password hash string missing field"
  | .trailingField => "password hash string contains trailing characters"
  | .badName => "invalid parameter name"
  | .badValue why => "invalid parameter value: " ++ why.message
  | .badSalt why => "salt invalid: " ++ why.message
  | .tooManyParameters => "maximum number of parameters reached"
  | .base64Length => "invalid Base64 length"
  | .base64Letters => "invalid Base64 encoding"
  | .outputTooShort => "output size too short, expected at least 10 bytes"
  | .unknownAlgorithm => "unsupported algorithm"
  | .unknownVersion => "invalid algorithm version"

/-- The fields of a stored hash; the salt and the parameters are still text. -/
structure Encoded where
  algorithm : List Char
  version : Option Nat
  parameters : List (List Char × List Char)
  salt : Option (List Char)
  output : Option (List UInt8)

namespace Encoded

/-- Whether the character can stand in the name of an algorithm or a parameter. -/
def isNameChar (c : Char) : Bool := c.isLower || c.isDigit || c == '-'

/-- Whether the character can stand in the value of a parameter or in a salt. -/
def isValueChar (c : Char) : Bool := c.isAlphanum || c == '/' || c == '+' || c == '.' || c == '-'

/-- One to 32 lower-case letters, digits and hyphens. -/
def name (text : List Char) : Except Fault (List Char) :=
  if text ≠ [] ∧ text.length ≤ 32 ∧ text.all isNameChar then .ok text else .error .badName

/-- The text itself, or its first character that no value can have. -/
def allValueChars (text : List Char) : Except BadValue (List Char) :=
  match text.find? fun c => !isValueChar c with
  | none => .ok text
  | some c => .error (.character c)

/-- At most 64 bytes of letters, digits and `/ + . -`. -/
def value (text : List Char) : Except BadValue (List Char) :=
  if (Utf8.encode text).length > 64 then .error .tooLong else allValueChars text

/-- A number below `2 ^ 32` without leading zeros. -/
def decimal (text : List Char) : Except BadValue Nat :=
  match text.find? fun c => !c.isDigit with
  | some c => .error (.character c)
  | none =>
    let n := text.foldl (fun n c => 10 * n + (c.toNat - '0'.toNat)) 0
    if text = [] then .error .malformed
    else if text.head? = some '0' ∧ text.length > 1 then .error .notCanonical
    else if n < UInt32.size then .ok n
    else .error .notCanonical

/-- Bytes of at most `limit`, in base64. -/
def bytes (limit : Nat) (text : List Char) : Except Fault (List UInt8) :=
  let n := (Utf8.encode text).length
  if 3 * (n / 4) + 3 * (n % 4) / 4 > limit then .error .base64Length
  else match Base64.decode Base64.standard text with
    | some bytes => .ok bytes
    | none => .error .base64Letters

/-- A parameter is a name and a value with one equals sign between them. -/
def parameter (text : List Char) : Except Fault (List Char × List Char) := do
  match text.splitOn '=' with
  | key :: rest =>
    let key ← name key
    match rest with
    | [] => throw (.badValue .malformed)
    | v :: more =>
      let v ← (value v).mapError .badValue
      if more = [] then return (key, v) else throw (.badValue .malformed)
  | [] => throw .badName

/-- The parameters between commas. Text of more than 127 bytes holds too many of them. -/
def parameterList (text : List Char) : Except Fault (List (List Char × List Char)) :=
  if (Utf8.encode text).length > 127 then .error .tooManyParameters
  else (text.splitOn ',').mapM parameter

/-- A salt of 4 to 64 bytes of text. -/
def saltText (text : List Char) : Except Fault (List Char) :=
  let n := (Utf8.encode text).length
  if n < 4 then .error (.badSalt .tooShort)
  else if n > 64 then .error (.badSalt .tooLong)
  else (allValueChars text).mapError .badSalt

/-- An output of 10 to 64 bytes. -/
def outputBytes (text : List Char) : Except Fault (List UInt8) := do
  let out ← bytes 64 text
  if out.length < 10 then throw .outputTooShort else return out

/-- The version, if the first field is one, and the fields after it. -/
def takeVersion : List (List Char) → Except Fault (Option Nat × List (List Char))
  | [] => .ok (none, [])
  | field :: rest => do
    if field.take 2 = ['v', '='] ∧ ',' ∉ field then
      let digits ← (value (field.drop 2)).mapError .badValue
      let n ← (decimal digits).mapError .badValue
      return (some n, rest)
    else return (none, field :: rest)

/-- The parameters, if the first field has an equals sign, and the fields after it. -/
def takeParameters :
    List (List Char) → Except Fault (List (List Char × List Char) × List (List Char))
  | [] => .ok ([], [])
  | field :: rest => do
    if '=' ∈ field then return (← parameterList field, rest) else return ([], field :: rest)

/-- Reads a stored hash, field by field between dollar signs. -/
def ofChars? (text : List Char) : Except Fault Encoded := do
  match text.splitOn '$' with
  | [] :: algorithm :: fields =>
    let algorithm ← name algorithm
    let (version, fields) ← takeVersion fields
    let (parameters, fields) ← takeParameters fields
    let salt ← fields.head?.mapM saltText
    let output ← (fields.drop 1).head?.mapM outputBytes
    if fields.length > 2 then throw .trailingField
    return ⟨algorithm, version, parameters, salt, output⟩
  | _ => throw .missingField

/-- The text of a hash with all its fields. -/
def text (algorithm : String) (version : Nat) (parameters : List (String × Nat))
    (salt output : List UInt8) : String :=
  let pairs := parameters.map fun (name, n) => name ++ "=" ++ toString n
  let base64 (bytes : List UInt8) := String.ofList (Base64.encode Base64.standard bytes)
  String.join (["", algorithm, "v=" ++ toString version, ",".intercalate pairs, base64 salt,
    base64 output].intersperse "$")

end Encoded

end Teller.Password
