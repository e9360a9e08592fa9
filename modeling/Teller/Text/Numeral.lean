import Teller.Amount

/-!
# Decimal numerals

An optional sign and at least one digit. The digits are taken from the left, so of a digit that
is none and a number that is too large the one that shows first is reported.
-/

namespace Teller.Text

/-- Why a text is no 64-bit integer. -/
inductive Misspelling where
  | empty
  | badDigit
  | tooLarge
  | tooSmall
deriving DecidableEq

/-- What is said of a text that is no number. -/
def Misspelling.message : Misspelling → String
  | .empty => "cannot parse integer from empty string"
  | .badDigit => "invalid digit found in string"
  | .tooLarge => "number too large to fit in target type"
  | .tooSmall => "number too small to fit in target type"

/-- Takes one more digit into a number of the given sign. -/
def takeDigit (negative : Bool) (n : Int) (c : Char) : Except Misspelling Int :=
  if c.isDigit then
    let digit : Int := c.toNat - '0'.toNat
    let n := if negative then n * 10 - digit else n * 10 + digit
    if n < Amount.least then .error .tooSmall
    else if Amount.greatest < n then .error .tooLarge
    else .ok n
  else .error .badDigit

/-- The 64-bit integer that a text spells. -/
def int64? (text : List Char) : Except Misspelling Int64 :=
  match text with
  | [] => .error .empty
  | ['+'] | ['-'] => .error .badDigit
  | '-' :: digits => (digits.foldlM (takeDigit true) 0).map Int64.ofInt
  | '+' :: digits => (digits.foldlM (takeDigit false) 0).map Int64.ofInt
  | digits => (digits.foldlM (takeDigit false) 0).map Int64.ofInt

end Teller.Text
