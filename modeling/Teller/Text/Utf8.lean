/-!
# UTF-8

The byte form of text. A character of code point `n` takes one to four bytes:

    n < 0x80       0xxxxxxx
    n < 0x800      110xxxxx 10xxxxxx
    n < 0x10000    1110xxxx 10xxxxxx 10xxxxxx
    otherwise      11110xxx 10xxxxxx 10xxxxxx 10xxxxxx

Reading is strict: a sequence counts only if it is the one `encodeChar` writes, so overlong forms,
surrogates and stray continuation bytes are refused.
-/

namespace Teller.Utf8

/-- A continuation byte carrying the six low bits of `n`. -/
def continuation (n : Nat) : UInt8 := (0x80 + n % 64).toUInt8

/-- The one to four bytes of a character. -/
def encodeChar (c : Char) : List UInt8 :=
  let n := c.toNat
  if n < 0x80 then [n.toUInt8]
  else if n < 0x800 then [(0xC0 + n / 64).toUInt8, continuation n]
  else if n < 0x10000 then [(0xE0 + n / 4096).toUInt8, continuation (n / 64), continuation n]
  else [(0xF0 + n / 262144).toUInt8, continuation (n / 4096), continuation (n / 64), continuation n]

/-- The bytes of all characters, one after the other. -/
def encode (text : List Char) : List UInt8 := text.flatMap encodeChar

/-- The code point spelled by a lead byte and the continuation bytes after it, unchecked. -/
def codePoint (lead : UInt8) (tail : List UInt8) : Nat :=
  tail.foldl (fun n b => n * 64 + b.toNat % 64) lead.toNat

/-- How many continuation bytes a lead byte announces, and what its marker bits add. -/
def announced (lead : UInt8) : Nat × Nat :=
  if lead < 0x80 then (0, 0)
  else if lead < 0xE0 then (1, 0xC0 * 64)
  else if lead < 0xF0 then (2, 0xE0 * 4096)
  else (3, 0xF0 * 262144)

/-- The first character and the bytes after it. -/
def decodeChar : List UInt8 → Option (Char × List UInt8)
  | [] => none
  | lead :: rest =>
    let (count, marker) := announced lead
    let c := Char.ofNat (codePoint lead (rest.take count) - marker)
    if encodeChar c = lead :: rest.take count then some (c, rest.drop count) else none

theorem length_lt_of_decodeChar {bytes rest : List UInt8} {c : Char}
    (h : decodeChar bytes = some (c, rest)) : rest.length < bytes.length := by
  cases bytes with
  | nil => simp [decodeChar] at h
  | cons lead tail =>
    simp only [decodeChar] at h
    split at h
    · simp only [Option.some.injEq, Prod.mk.injEq] at h
      rw [← h.2, List.length_drop, List.length_cons]
      omega
    · contradiction

/-- The text that the bytes are the form of, if there is one. -/
def decode (bytes : List UInt8) : Option (List Char) :=
  if bytes.isEmpty then some []
  else
    match _h : decodeChar bytes with
    | none => none
    | some (c, rest) => (decode rest).map (c :: ·)
termination_by bytes.length
decreasing_by exact length_lt_of_decodeChar ‹_›

/-- The bytes of a string. -/
def ofString (s : String) : List UInt8 := encode s.toList

/-- The string with these bytes, if they are well-formed. -/
def toString? (bytes : List UInt8) : Option String := (decode bytes).map String.ofList

end Teller.Utf8
