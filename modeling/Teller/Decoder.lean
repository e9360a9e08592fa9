import Teller.Mismatch

/-!
# Reading structured data of any format

A decoder says how one data format answers the questions of a reader: is this a text, a whole number
of so many bits, one of these names, a record of these fields? What is to be read can then be said
once for all formats. `ν` are the format's values and `ε` its failures.
-/

namespace Teller

/-- A field of a record that is built step by step. -/
structure Field (ν ε σ : Type) where
  name : String
  isFilled : σ → Bool
  read : ν → σ → Except ε σ

/-- A field whose value is kept as an option in the record. -/
def Field.of {ν ε σ α : Type} (name : String) (get : σ → Option α) (put : α → σ → σ)
    (read : ν → Except ε α) : Field ν ε σ where
  name := name
  isFilled s := (get s).isSome
  read v s := return put (← read v) s

/-- The value of a field that must be there. -/
def required {α : Type} (name : String) (field : Option α) : Except Mismatch α :=
  match field with
  | some x => .ok x
  | none => .error (.missingField name)

/-- How a format gives values of the kinds that a configuration has, with faults of its own. -/
structure Decoder (ν ε : Type) where
  text : ν → Except ε String
  boolean : ν → Except ε Bool
  /-- A number from zero that fits in `bits` bits. -/
  natural (bits : Nat) : ν → Except ε Nat
  /-- One of the given names. -/
  choice (names : List String) : ν → Except ε String
  record {σ α : Type} (title : String) (fields : List (Field ν ε σ)) (empty : σ)
    (complete : σ → Except Mismatch α) : ν → Except ε α

end Teller
