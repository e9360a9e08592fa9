import Teller.Text.Ranges

/-!
# Blanks

The Unicode property White_Space, and the operations that cut text at blanks.
-/

namespace Teller.Text

/-- The characters with the property White_Space. -/
def blanks : Ranges := [
  (0x9, 0xd), (0x20, 0x20), (0x85, 0x85), (0xa0, 0xa0), (0x1680, 0x1680), (0x2000, 0x200a),
  (0x2028, 0x2029), (0x202f, 0x202f), (0x205f, 0x205f), (0x3000, 0x3000)]

/-- Whether the character separates the fields of a text. -/
def isBlank (c : Char) : Bool := blanks.has c

/-- Removes the blanks at both ends. -/
def trim (text : List Char) : List Char :=
  ((text.dropWhile isBlank).reverse.dropWhile isBlank).reverse

/-- The longest field at the start of a text, blanks before it skipped, and what follows it. -/
def field (text : List Char) : List Char × List Char := (text.dropWhile isBlank).span (!isBlank ·)

/-- The first two blank-separated fields. -/
def firstTwoFields? (text : List Char) : Option (List Char × List Char) :=
  let (first, rest) := field text
  let (second, _) := field rest
  if first.isEmpty ∨ second.isEmpty then none else some (first, second)

end Teller.Text
