import Teller.Text.Utf8
import Teller.Uuid

/-!
# Percent-encoding

A byte may be written as a percent sign and two hexadecimal digits, so a character takes up to four
of these. A percent sign that two hexadecimal digits do not follow stands for itself. In the parts
of a form a plus sign is a space.
-/

namespace Teller.Text.Percent

/-- The value of a byte that is a hexadecimal digit. -/
def hexValue? (b : UInt8) : Option Nat := Uuid.hexValue? (Char.ofNat b.toNat)

def percent : UInt8 := 0x25

/-- Every percent sign with two hexadecimal digits after it becomes the byte they spell. -/
def decodeBytes : List UInt8 → List UInt8
  | b :: hi :: lo :: rest =>
    if b = percent then
      match hexValue? hi, hexValue? lo with
      | some x, some y => (16 * x + y).toUInt8 :: decodeBytes rest
      | _, _ => b :: decodeBytes (hi :: lo :: rest)
    else b :: decodeBytes (hi :: lo :: rest)
  | bytes => bytes

/-- The text that is spelled, unless its bytes are no text. -/
def decode? (text : String) : Option String := Utf8.toString? (decodeBytes (Utf8.ofString text))

/-- The character that stands in for bytes that are no text. -/
def replacement : Char := '\ufffd'

/-- The text of some bytes, with a replacement for each byte that belongs to no character. -/
def readable (bytes : List UInt8) : List Char :=
  match bytes with
  | [] => []
  | b :: tail =>
    match _h : Utf8.decodeChar (b :: tail) with
    | some (c, rest) => c :: readable rest
    | none => replacement :: readable tail
termination_by bytes.length
decreasing_by
  · exact Utf8.length_lt_of_decodeChar ‹_›
  · simp

/-- A name or a value of a form. -/
def formPart (text : List Char) : String :=
  String.ofList
    (readable (decodeBytes (Utf8.encode (text.map fun c => if c = '+' then ' ' else c))))

/-- The names and values of a form, `name=value&name=value`. -/
def formPairs (text : String) : List (String × String) :=
  let pieces := (text.toList.splitOn '&').filter (· ≠ [])
  pieces.map fun piece =>
    let (name, rest) := piece.span (· ≠ '=')
    (formPart name, formPart (rest.drop 1))

end Teller.Text.Percent
