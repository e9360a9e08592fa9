import Teller.Decimal

/-!
# JSON values and their compact text

    null   true   -12   1.5   "text"   [a,b]   {"k":v,"l":w}

No blanks are written. In strings a quote, a backslash and the controls below the space are escaped,
the controls with a short form by it and the others as four hexadecimal digits.
-/

namespace Teller.Json

/-- A JSON value. Members stay in the order in which they were given. -/
inductive Value where
  | null
  | bool (b : Bool)
  | integer (n : Int)
  | decimal (x : Float)
  | text (s : String)
  | array (items : List Value)
  | object (members : List (String × Value))

/-- The hexadecimal digit of a number below 16, in small letters. -/
def hexDigit (n : Nat) : Char := if n < 10 then Char.ofNat (48 + n) else Char.ofNat (87 + n)

/-- A character inside a string literal. -/
def escape (c : Char) : List Char :=
  if c = '"' ∨ c = '\\' then ['\\', c]
  else if c.toNat < 0x20 then
    match c.toNat with
    | 8 => ['\\', 'b']
    | 9 => ['\\', 't']
    | 10 => ['\\', 'n']
    | 12 => ['\\', 'f']
    | 13 => ['\\', 'r']
    | n => ['\\', 'u', '0', '0', hexDigit (n / 16), hexDigit (n % 16)]
  else [c]

/-- The string literal of a text. -/
def literal (text : List Char) : List Char := '"' :: text.flatMap escape ++ ['"']

/-- Numbers from 10⁻⁵ up to 10¹⁶ are written without an exponent. -/
def layout : Decimal.Layout := ⟨-5, 16⟩

/-- The decimal digits of a number, after a minus sign if it is below zero. -/
def integerText (n : Int) : List Char := (toString n).toList

/-- Texts joined by commas. -/
def commas : List (List Char) → List Char
  | [] => []
  | [t] => t
  | t :: u :: rest => t ++ ',' :: commas (u :: rest)

mutual

/-- The compact text of a value, letter by letter. -/
def Value.chars : Value → List Char
  | .null => ['n', 'u', 'l', 'l']
  | .bool true => ['t', 'r', 'u', 'e']
  | .bool false => ['f', 'a', 'l', 's', 'e']
  | .integer n => integerText n
  | .decimal x => (Decimal.ofFloat layout x).toList
  | .text s => literal s.toList
  | .array items => '[' :: commas (itemTexts items) ++ [']']
  | .object members => '\x7b' :: commas (memberTexts members) ++ ['\x7d']

/-- The texts of the items of a list. -/
def itemTexts : List Value → List (List Char)
  | [] => []
  | v :: rest => v.chars :: itemTexts rest

/-- The texts of the members of an object, each with its name. -/
def memberTexts : List (String × Value) → List (List Char)
  | [] => []
  | (name, v) :: rest => (literal name.toList ++ ':' :: v.chars) :: memberTexts rest

end

/-- The compact text of a value. -/
def Value.render (v : Value) : String := String.ofList v.chars

end Teller.Json
