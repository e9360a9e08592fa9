/-!
# Universally unique identifiers

A 128-bit number, written as 32 hexadecimal digits in groups of 8, 4, 4, 4 and 12 joined by hyphens.
Reading also takes the digits without hyphens, and the hyphenated form inside braces or after
`urn:uuid:` in either case.
-/

namespace Teller

/-- An identifier of 128 bits. -/
structure Uuid where
  bits : BitVec 128
deriving DecidableEq

namespace Uuid

def hexDigit (n : Nat) : Char := if n < 10 then Char.ofNat (48 + n) else Char.ofNat (87 + n)

/-- The value of a hexadecimal digit of either case. -/
def hexValue? (c : Char) : Option Nat :=
  if '0' ≤ c ∧ c ≤ '9' then some (c.toNat - 48)
  else if 'a' ≤ c ∧ c ≤ 'f' then some (c.toNat - 87)
  else if 'A' ≤ c ∧ c ≤ 'F' then some (c.toNat - 55)
  else none

/-- The low `count` hexadecimal digits of `n`, highest first. -/
def hexDigits : Nat → Nat → List Char
  | 0, _ => []
  | count + 1, n => hexDigits count (n / 16) ++ [hexDigit (n % 16)]

/-- The number spelled by hexadecimal digits of either case. -/
def ofHexDigits? (digits : List Char) : Option Nat :=
  digits.foldlM (fun n c => (hexValue? c).map (n * 16 + ·)) 0

/-- The identifier in five groups of hexadecimal digits with hyphens between them. -/
def toChars (u : Uuid) : List Char :=
  let digits := hexDigits 32 u.bits.toNat
  let group (start size : Nat) := (digits.drop start).take size
  group 0 8 ++ '-' :: group 8 4 ++ '-' :: group 12 4 ++ '-' :: group 16 4 ++ '-' :: group 20 12

instance : ToString Uuid := ⟨fun u => String.ofList u.toChars⟩

/-- The identifier that 32 hexadecimal digits spell. -/
def ofDigits? (digits : List Char) : Option Uuid :=
  (ofHexDigits? digits).map fun n => ⟨BitVec.ofNat 128 n⟩

/-- Drops the hyphens of a 36-letter form, which stand after 8, 12, 16 and 20 digits. -/
def ungroup? (text : List Char) : Option (List Char) :=
  let at? (i : Nat) : Bool := text[i]? = some '-'
  if text.length = 36 ∧ at? 8 ∧ at? 13 ∧ at? 18 ∧ at? 23 then
    some (text.take 8 ++ (text.drop 9).take 4 ++ (text.drop 14).take 4 ++ (text.drop 19).take 4
      ++ text.drop 24)
  else none

/-- What an identifier begins with as a name. -/
def urnLabel : List Char := "urn:uuid:".toList

/-- The hyphenated form inside the decoration of a text. -/
def undecorate (text : List Char) : List Char :=
  if text.length = 38 ∧ text.head? = some '\x7b' ∧ text.getLast? = some '\x7d' then
    (text.drop 1).take 36
  else if (text.take 9).map Char.toLower = urnLabel then text.drop 9
  else text

/-- Reads an identifier: bare digits, or groups, which may be decorated. -/
def ofChars? (text : List Char) : Option Uuid :=
  if text.length = 32 then ofDigits? text else (ungroup? (undecorate text)).bind ofDigits?

/-- The identifier after this one. -/
def next (u : Uuid) : Uuid := ⟨u.bits + 1⟩

end Uuid

end Teller
