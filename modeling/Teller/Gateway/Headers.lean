import Teller.Text.Utf8

/-!
# Request headers

Names are compared without regard to the case of ASCII letters. Where a header is repeated its first
value counts. A value is usable as text if it is printable ASCII, tabs included.
-/

namespace Teller.Gateway

/-- The names of headers with their values, in the order of the request. -/
abbrev Headers := List (String × String)

def lower (s : String) : String := String.ofList (s.toList.map Char.toLower)

/-- Whether a value consists of printable ASCII characters and tabs. -/
def isPlain (value : String) : Bool :=
  value.toList.all fun c => (0x20 ≤ c.toNat && c.toNat < 0x7f) || c = '\t'

/-- The first value under `name`, which is in lower case. -/
def Headers.first? (headers : Headers) (name : String) : Option String :=
  (headers.find? fun h => lower h.1 = name).map (·.2)

/-- That value, if it is usable as text. -/
def Headers.text? (headers : Headers) (name : String) : Option String :=
  (headers.first? name).filter isPlain

end Teller.Gateway
