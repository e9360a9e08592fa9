import Teller.Text.Printable

/-!
# Text in diagnostic messages

A string in double quotes, with the characters that would not show written as escapes: `\0`, `\t`,
`\n`, `\r`, a backslash before a quote or a backslash, and for any other invisible or combining
character its code point in hexadecimal inside braces.
-/

namespace Teller.Text

/-- Whether the character stands for itself in a quoted text. -/
def shows (c : Char) : Bool :=
  if c.toNat < 0x80 then 0x20 ≤ c.toNat && c.toNat < 0x7f
  else !unprintable.has c && !combining.has c

/-- A character as it stands in a quoted text. -/
def escape (c : Char) : List Char :=
  if c = '\x00' then ['\\', '0']
  else if c = '\t' then ['\\', 't']
  else if c = '\n' then ['\\', 'n']
  else if c = '\r' then ['\\', 'r']
  else if c = '"' ∨ c = '\\' then ['\\', c]
  else if shows c then [c]
  else '\\' :: 'u' :: '\x7b' :: Nat.toDigits 16 c.toNat ++ ['\x7d']

/-- The diagnostic form of a string. -/
def quote (s : String) : String := String.ofList ('"' :: s.toList.flatMap escape ++ ['"'])

end Teller.Text
