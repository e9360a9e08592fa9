import Teller.Gateway.Failure
import Teller.Text.Letters
import Teller.Text.Quoted

/-!
# Constraints on fields

A field of a request can break several constraints. The message names each field at fault on a line
of its own, in the order of the names, with everything that is wrong with it. Lengths count
characters.
-/

namespace Teller.Gateway

/-- A way in which a value breaks a constraint, with what the message tells of it. -/
inductive Violation where
  | length (least most : Option Nat) (value : String)
  | range (least most : Option Int) (value : Int64)
  | email (value : String)
  | username
  | fullName
  | currency
deriving DecidableEq

namespace Violation

/-- The bounds and the value a violation reports, each with its name. -/
def details (bounds : List (String × Option String)) (value : String) : String :=
  let shown := bounds.filterMap fun (name, bound) =>
    bound.map fun b => Text.quote name ++ ": Number(" ++ b ++ ")"
  "[\x7b" ++ ", ".intercalate (shown ++ [Text.quote "value" ++ ": " ++ value]) ++ "\x7d]"

/-- What is told of a violation. -/
def message : Violation → String
  | .length least most value =>
    "Validation error: length "
      ++ details [("max", most.map toString), ("min", least.map toString)]
        ("String(" ++ Text.quote value ++ ")")
  | .range least most value =>
    "Validation error: range "
      ++ details [("max", most.map toString), ("min", least.map toString)]
        ("Number(" ++ toString value.toInt ++ ")")
  | .email value => "Validation error: email " ++ details [] ("String(" ++ Text.quote value ++ ")")
  | .username => "must contain only lowercase letters, digits, or underscore"
  | .fullName => "must contain only letters or spaces"
  | .currency => "unsupported currency"

end Violation

namespace Constraint

/-- Whether a value lies below the least one or above the greatest, as far as there are any. -/
def outside {α : Type} [LT α] [DecidableRel (α := α) (· < ·)] (least most : Option α) (x : α) :
    Bool :=
  least.any (x < ·) || most.any (· < x)

/-- The text has to be of a length between two bounds, in characters. -/
def length (least most : Option Nat) (s : String) : List Violation :=
  if outside least most s.toList.length then [.length least most s] else []

/-- The number has to lie between two bounds. -/
def range (least most : Option Int) (n : Int64) : List Violation :=
  if outside least most n.toInt then [.range least most n] else []

/-- The currencies in which accounts can be kept. -/
def supportedCurrencies : List String := ["USD", "EUR", "CAD", "YEN", "AUD"]

/-- The text has to name a supported currency. -/
def currency (s : String) : List Violation :=
  if supportedCurrencies.contains s then [] else [.currency]

/-- Lower-case ASCII letters, digits and underscores. -/
def usernameChar (c : Char) : Bool := ('a' ≤ c && c ≤ 'z') || ('0' ≤ c && c ≤ '9') || c = '_'

/-- The text has to be a name that users can have. -/
def username (s : String) : List Violation := if s.toList.all usernameChar then [] else [.username]

/-- Alphabetic characters and spaces. -/
def fullNameChar (c : Char) : Bool := Text.isAlphabetic c || c = ' '

/-- The text has to be a name that people can have. -/
def fullName (s : String) : List Violation := if s.toList.all fullNameChar then [] else [.fullName]

/-- What is wrong with each field, by name. -/
abbrev Report := List (String × List Violation)

/-- One line per field at fault, in the order of the names. -/
def Report.message (report : Report) : String :=
  let faulty := (report.filter fun line => !line.2.isEmpty).mergeSort fun a b => a.1 ≤ b.1
  "\n".intercalate (faulty.map fun (name, violations) =>
    name ++ ": " ++ ", ".intercalate (violations.map Violation.message))

/-- Whether no field breaks a constraint. -/
def Report.isClean (report : Report) : Bool := report.all fun line => line.2.isEmpty

end Constraint

end Teller.Gateway
