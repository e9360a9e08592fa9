import Teller.Decoder
import Teller.Json.Fault

/-!
# Reading JSON values

A record is an object, unknown members ignored, or the array of its fields in order. A name is a
string, or the only member of an object with the value `null`.
-/

namespace Teller.Json

/-- The kind of the value, as an error message tells it. -/
def Value.found : Value → Found
  | .null => .nothing
  | .bool b => .boolean b
  | .integer n => .integer n
  | .decimal x => .decimal x
  | .text s => .text s
  | .array _ => .sequence
  | .object _ => .mapping

namespace Value

/-- The failure of a value that is of another kind than expected. -/
def mismatch {α : Type} (v : Value) (expected : String) : Except Mismatch α :=
  .error (.invalidType v.found expected)

/-- The text of a value that is one. -/
def asText (v : Value) : Except Mismatch String :=
  match v with
  | .text s => .ok s
  | v => v.mismatch "a string"

/-- The truth value of a value that is one. -/
def asBoolean (v : Value) : Except Mismatch Bool :=
  match v with
  | .bool b => .ok b
  | v => v.mismatch "a boolean"

/-- The number of a value, if it is a whole one that fits in so many bits. -/
def asNatural (bits : Nat) (v : Value) : Except Mismatch Nat :=
  match v with
  | .integer n =>
    if 0 ≤ n ∧ n.toNat < 1 <<< bits then .ok n.toNat
    else .error (.invalidValue (.integer n) s!"u{bits}")
  | v => v.mismatch s!"u{bits}"

/-- The name itself, if it is one of those that are known. -/
def known (names : List String) (name : String) : Except Mismatch String :=
  if names.contains name then .ok name else .error (.unknownVariant name names)

/-- A choice is its name, or an object with that name as its only member and null in it. -/
def asChoice (names : List String) (v : Value) : Except Mismatch String :=
  match v with
  | .text name => known names name
  | .object [(name, content)] => do
    let name ← known names name
    match content with
    | .null => return name
    | content => content.mismatch "unit"
  | .object _ => .error (.invalidValue .mapping "map with a single key")
  | v => v.mismatch "string or map"

variable {σ α : Type}

/-- Fills a record from the members of an object. A member that is no field is skipped. -/
def fill (fields : List (Field Value Mismatch σ)) : List (String × Value) → σ → Except Mismatch σ
  | [], s => .ok s
  | (name, v) :: rest, s =>
    match fields.find? fun f => f.name = name with
    | some f => do
      if f.isFilled s then .error (.duplicateField name)
      fill fields rest (← f.read v s)
    | none => fill fields rest s

/-- Fills a record from the items of a list, in the order of the fields. -/
def fillInOrder (title : String) (items : List Value) :
    List (Field Value Mismatch σ) → Nat → σ → Except Mismatch σ
  | [], _, s => .ok s
  | f :: rest, i, s =>
    match items[i]? with
    | some v => do fillInOrder title items rest (i + 1) (← f.read v s)
    | none =>
      .error (.invalidLength i (s!"struct {title} with {i + 1 + rest.length} element"
        ++ if i + rest.length = 0 then "" else "s"))

/-- A record is an object or a list of the values of its fields. -/
def asRecord (title : String) (fields : List (Field Value Mismatch σ)) (empty : σ)
    (complete : σ → Except Mismatch α) (v : Value) : Except Mismatch α :=
  match v with
  | .object members => do complete (← fill fields members empty)
  | .array items => do
    let x ← complete (← fillInOrder title items fields 0 empty)
    if fields.length < items.length then
      .error (.invalidLength items.length "fewer elements in array")
    else .ok x
  | v => v.mismatch s!"struct {title}"

end Value

/-- JSON as a format in which configurations are written. -/
def decoder : Decoder Value Mismatch where
  text := Value.asText
  boolean := Value.asBoolean
  natural := Value.asNatural
  choice := Value.asChoice
  record := Value.asRecord

end Teller.Json
