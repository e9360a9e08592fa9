/-!
# Base64 without padding

Three bytes are four letters of six bits; one byte left over is two letters, two bytes are three.
Reading is strict: every letter is of the alphabet, the count of letters is not one more than a
multiple of four, and the bits that the last letter carries beyond the last byte are zero. So a byte
string has exactly one spelling.
-/

namespace Teller.Base64

/-- The 64 letters in order of value. -/
structure Alphabet where
  letters : List Char

/-- The letters that both alphabets begin with. -/
def common : List Char := "ABCDEFGHIJKLMNOPQRSTUVWXYZabcdefghijklmnopqrstuvwxyz0123456789".toList

/-- The alphabet of stored password hashes. -/
def standard : Alphabet := ⟨common ++ ['+', '/']⟩

/-- The alphabet that needs no escaping in addresses and file names. -/
def urlSafe : Alphabet := ⟨common ++ ['-', '_']⟩

/-- The letter of a six-bit value. -/
def Alphabet.letter (a : Alphabet) (value : Nat) : Char := a.letters.getD value 'A'

/-- The six-bit value of a letter, if it is in the alphabet. -/
def Alphabet.value? (a : Alphabet) (c : Char) : Option Nat := a.letters.idxOf? c

/-- Three bytes make four letters. Bytes that are left over make two or three, without padding. -/
def encode (a : Alphabet) : List UInt8 → List Char
  | [] => []
  | [x] => [a.letter (x.toNat / 4), a.letter (x.toNat % 4 * 16)]
  | [x, y] =>
    [a.letter (x.toNat / 4), a.letter (x.toNat % 4 * 16 + y.toNat / 16),
      a.letter (y.toNat % 16 * 4)]
  | x :: y :: z :: rest =>
    a.letter (x.toNat / 4) :: a.letter (x.toNat % 4 * 16 + y.toNat / 16) ::
      a.letter (y.toNat % 16 * 4 + z.toNat / 64) :: a.letter (z.toNat % 64) :: encode a rest

/-- The bytes of a list of six-bit values. -/
def join : List Nat → Option (List UInt8)
  | [] => some []
  | [_] => none
  | [p, q] => if q % 16 = 0 then some [(p * 4 + q / 16).toUInt8] else none
  | [p, q, r] =>
    if r % 4 = 0 then some [(p * 4 + q / 16).toUInt8, (q % 16 * 16 + r / 4).toUInt8] else none
  | p :: q :: r :: s :: rest =>
    (join rest).map fun bytes =>
      (p * 4 + q / 16).toUInt8 :: (q % 16 * 16 + r / 4).toUInt8 :: (r % 4 * 64 + s).toUInt8 :: bytes

/-- The bytes whose only text this is, if there are any. -/
def decode (a : Alphabet) (text : List Char) : Option (List UInt8) :=
  (text.mapM a.value?).bind join

end Teller.Base64
