import Teller.Text.Printable
import Teller.Text.Punycode

/-!
# International domain names

A domain with characters beyond ASCII stands for one in ASCII: full-width forms become the
characters they show, ideographic full stops become points, soft hyphens vanish, and a label that is
still not ASCII is spelled with `xn--` and its Punycode. Invisible and unassigned characters are
refused, as is a label that starts with a combining character.
-/

namespace Teller.Text.DomainName

/-- The characters that a character of a domain stands for. -/
def fold (c : Char) : List Char :=
  let n := c.toNat
  if n < 0x80 then [c.toLower]
  else if n = 0x3002 ∨ n = 0xff0e ∨ n = 0xff61 then ['.']
  else if 0xff01 ≤ n ∧ n ≤ 0xff5e then [(Char.ofNat (n - 0xfee0)).toLower]
  else if n = 0xad ∨ n = 0x200b ∨ n = 0x2060 ∨ n = 0xfeff ∨ (0xfe00 ≤ n ∧ n ≤ 0xfe0f) then []
  else if n = 0x17f then ['s']
  else if n = 0x212a then ['k']
  else [c]

/-- Whether the label stands as it is. -/
def isAscii (label : List Char) : Bool := label.all fun c => c.toNat < 0x80

/-- A label has no character that cannot be shown, and begins with none that combines. -/
def accepts (label : List Char) : Bool :=
  !(label.any fun c => 0x80 ≤ c.toNat && unprintable.has c) && !label.head?.any combining.has

/-- The ASCII spelling of a label. -/
def label? (label : List Char) : Option (List Char) :=
  if isAscii label then some label
  else if accepts label then some ("xn--".toList ++ Punycode.encode label)
  else none

/-- The ASCII spelling of the labels of a domain. -/
def toAscii? (labels : List (List Char)) : Option (List (List Char)) := labels.mapM label?

end Teller.Text.DomainName
