import Teller.Json.Record

/-!
# Headers of signed tokens

A header names the algorithm of the signature and may carry hints about the key. Only the algorithm
matters here, but a header whose hints are malformed is no header.
-/

namespace Teller.Token.Header

open Json

/-- The algorithms a header may name. -/
def algorithms : List String :=
  ["HS256", "HS384", "HS512", "ES256", "ES384", "RS256", "RS384", "RS512", "PS256", "PS384",
    "PS512", "EdDSA"]

/-- The algorithms a key may be meant for. -/
def keyAlgorithms : List String := algorithms ++ ["RSA1_5", "RSA-OAEP", "RSA-OAEP-256"]

/-- The curves that a key can lie on. -/
def curves : List String := ["P-256", "P-384", "P-521", "Ed25519"]

/-- The algorithm of the tokens issued here. -/
def algorithm : String := "HS256"

/-- The header of the tokens issued here. -/
def standard : Value := .object [("typ", .text "JWT"), ("alg", .text algorithm)]

/-! ## Keys inside a header -/

def isText : Value → Bool
  | .text _ => true
  | _ => false

def isNull : Value → Bool
  | .null => true
  | _ => false

def isTexts : Value → Bool
  | .array items => items.all isText
  | _ => false

/-- A name out of a choice, alone or as the only member of an object. -/
def isOneOf (names : List String) : Value → Bool
  | .text s => names.contains s
  | .object [(name, value)] => names.contains name && isNull value
  | _ => false

/-- The members of a key that any kind of key may have; each may be null. -/
def keyHints : List (String × (Value → Bool)) :=
  [("use", isText), ("key_ops", isTexts), ("alg", isOneOf keyAlgorithms), ("kid", isText),
    ("x5u", isText), ("x5c", isTexts), ("x5t", isText), ("x5t#S256", isText)]

/-- The members that each kind of key must have. -/
def keyKinds : List (List (String × (Value → Bool))) :=
  [[("kty", isOneOf ["EC"]), ("crv", isOneOf curves), ("x", isText), ("y", isText)],
    [("kty", isOneOf ["RSA"]), ("n", isText), ("e", isText)],
    [("kty", isOneOf ["oct"]), ("k", isText)],
    [("kty", isOneOf ["OKP"]), ("crv", isOneOf curves), ("x", isText)]]

/-- The values of all members of this name. -/
def named (members : List (String × Value)) (name : String) : List Value :=
  members.filterMap fun m => if m.1 = name then some m.2 else none

/-- Whether the value describes a key: its hints are of their types, and it is of one kind. -/
def isKey : Value → Bool
  | .object members =>
    let hintsOk := keyHints.all fun (name, ok) =>
      match named members name with
      | [] => true
      | [v] => isNull v || ok v
      | _ => false
    let kindOk := keyKinds.any fun kind => kind.all fun (name, ok) =>
      match named members name with
      | [v] => ok v
      | _ => false
    hintsOk && kindOk
  | _ => false

/-! ## Reading -/

/-- How deep lists and objects may nest inside a member. -/
def depth : Nat := 127

/-- Null, or what `r` reads. -/
def orNull {α : Type} (r : Reader α) : Reader (Option α) := do
  if (← Reader.peekPastBlanks?) = some (byte 'n') then
    Reader.advance
    Reader.word ['u', 'l', 'l']
    return none
  else return some (← r)

/-- Reads a list of texts and forgets it. -/
def texts : Reader Unit := do
  let first ← Reader.start
  if first = byte '[' then
    Reader.advance
    discard (Reader.elementsWith Reader.text ((← get).length + 1) true)
    Reader.closeList
  else Reader.unexpected "a sequence" first

/-- Reads one of the names, or an object with it as its only member. -/
def oneOf (names : List String) : Reader String := do
  let first ← Reader.start
  let named (name : String) : Reader String :=
    if names.contains name then return name else Reader.mismatch (.unknownVariant name names)
  if first = byte '"' then named (← Reader.text)
  else if first = byte '\x7b' then
    Reader.advance
    let name ← named (← Reader.text)
    Reader.colon
    let next ← Reader.start
    if next = byte 'n' then
      Reader.advance
      Reader.word ['u', 'l', 'l']
    else Reader.unexpected "unit" next
    match ← Reader.peekPastBlanks? with
    | none => Reader.fail .endOfObject
    | some b =>
      if b = byte '\x7d' then
        Reader.advance
        return name
      else Reader.fail .missingValue
  else Reader.failAhead .missingValue

/-- Reads the description of a key and forgets it. -/
def key : Reader Unit := do
  let value ← Reader.value depth
  if isKey value then return () else Reader.fail .refused

/-- What was read of a header so far. -/
structure Draft where
  seen : List String
  algorithm : Option String

/-- A member that is checked and forgotten. -/
def hint (name : String) (r : Reader Unit) : Slot Draft where
  name := name
  isFilled d := d.seen.contains name
  read d := do
    discard (orNull r)
    return { d with seen := name :: d.seen }

def textHint (name : String) : Slot Draft := hint name (discard Reader.text)

/-- The parameters that a header can have. Only the algorithm is kept. -/
def slots : List (Slot Draft) := [
  textHint "typ",
  .of "alg" (·.algorithm) (fun a d => { d with algorithm := some a }) (oneOf algorithms),
  textHint "cty", textHint "jku", hint "jwk" key, textHint "kid", textHint "x5u",
  hint "x5c" texts, textHint "x5t", textHint "x5t#S256"]

/-- The algorithm that a header names. -/
def reader : Reader String :=
  Reader.record "Header" slots ⟨[], none⟩ fun d => require "alg" d.algorithm

/-- The algorithm that a header names, if the header can be read. -/
def algorithmOf? (bytes : List UInt8) : Option String := (Reader.all reader bytes).toOption

end Teller.Token.Header
