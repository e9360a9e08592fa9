import Teller.Decimal
import Teller.Text.Quoted

/-!
# When data does not have the expected shape

Structured data is read against a shape: a text, a whole number of some width, a record with named
fields, a choice between names. A mismatch says what was found and what was expected, or which field
or choice is at fault.
-/

namespace Teller

/-- What stood in the place of the expected value. -/
inductive Found where
  | nothing
  | boolean (b : Bool)
  | integer (n : Int)
  | decimal (x : Float)
  | text (s : String)
  | sequence
  | mapping

/-- A value that is well written but not what was expected. -/
inductive Mismatch where
  | invalidType (found : Found) (expected : String)
  | invalidValue (found : Found) (expected : String)
  | invalidLength (length : Nat) (expected : String)
  | unknownVariant (name : String) (known : List String)
  | missingField (name : String)
  | duplicateField (name : String)

/-- How a data format words the values that have no text of their own in common. -/
structure Wording where
  nothing : String
  decimal : Float → String

/-- An integer that needs more than 64 bits is shown with its width. -/
def integerText (n : Int) : String :=
  let shown := s!"integer `{n}`"
  if UInt64.size ≤ n then shown ++ " as u128"
  else if n < Int64.minValue.toInt then shown ++ " as i128"
  else shown

/-- What was found, in the words of a format. -/
def Found.describe (w : Wording) : Found → String
  | .nothing => w.nothing
  | .boolean b => s!"boolean `{b}`"
  | .integer n => integerText n
  | .decimal x => "floating point `" ++ w.decimal x ++ "`"
  | .text s => "string " ++ Text.quote s
  | .sequence => "sequence"
  | .mapping => "map"

/-- The names of a choice: one, either of two, or one of many. -/
def alternatives (names : List String) : String :=
  let quoted := names.map fun n => s!"`{n}`"
  match quoted with
  | [] => "there are no variants"
  | [a] => "expected " ++ a
  | [a, b] => "expected " ++ a ++ " or " ++ b
  | many => "expected one of " ++ ", ".intercalate many

/-- What is said of a mismatch, in the words of a format. -/
def Mismatch.message (w : Wording) : Mismatch → String
  | .invalidType found expected => "invalid type: " ++ found.describe w ++ ", expected " ++ expected
  | .invalidValue found expected =>
    "invalid value: " ++ found.describe w ++ ", expected " ++ expected
  | .invalidLength n expected => s!"invalid length {n}, expected " ++ expected
  | .unknownVariant name known => s!"unknown variant `{name}`, " ++ alternatives known
  | .missingField name => s!"missing field `{name}`"
  | .duplicateField name => s!"duplicate field `{name}`"

end Teller
