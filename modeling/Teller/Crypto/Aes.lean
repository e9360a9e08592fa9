import Teller.Bytes

/-!
# The AES-256 block cipher

A permutation of 16-byte blocks keyed by 32 bytes. A block is a list of bytes, column by column;
bytes multiply in the field of 256 elements given by x⁸ + x⁴ + x³ + x + 1.

A block takes fourteen rounds after its first key is added to it. Each round substitutes the bytes,
shifts the rows, mixes the columns and adds a key of its own; the last one mixes nothing.
-/

namespace Teller.Crypto.Aes

/-- Multiplication by `x`. -/
def double (b : UInt8) : UInt8 := if b < 0x80 then b <<< 1 else (b <<< 1) ^^^ 0x1b

/-- Multiplication in the field, by the eight bits of the first factor. -/
def mul (a b : UInt8) : UInt8 :=
  let step (acc : UInt8 × UInt8 × UInt8) : UInt8 × UInt8 × UInt8 :=
    let (a, b, sum) := acc
    (a >>> 1, double b, if a &&& 1 = 1 then sum ^^^ b else sum)
  ((List.range 8).foldl (fun acc _ => step acc) (a, b, 0)).2.2

/-- The inverse in the field, zero for zero: the 254th power. -/
def inverse (b : UInt8) : UInt8 := (List.range 253).foldl (fun acc _ => mul acc b) b

/-- The substitution of one byte: its inverse under an affine map of bits. -/
def substitution (b : UInt8) : UInt8 :=
  let x := inverse b
  let turn (n : UInt8) := (x <<< n) ||| (x >>> (8 - n))
  x ^^^ turn 1 ^^^ turn 2 ^^^ turn 3 ^^^ turn 4 ^^^ 0x63

/-- The substitution of every byte, tabulated. -/
def table : Array UInt8 := Array.ofFn fun i : Fin 256 => substitution i.val.toUInt8

/-- The byte that the table has for this one. -/
def substitute (b : UInt8) : UInt8 := table.getD b.toNat 0

/-- Row `r` of the block moves left by `r` columns. -/
def shiftRows (block : List UInt8) : List UInt8 :=
  (List.range 16).map fun i => block.getD ((i + 4 * (i % 4)) % 16) 0

/-- Each byte of a column is replaced by a combination of all four. -/
def mixColumn : List UInt8 → List UInt8
  | [a, b, c, d] =>
    let all := a ^^^ b ^^^ c ^^^ d
    [a ^^^ all ^^^ double (a ^^^ b), b ^^^ all ^^^ double (b ^^^ c),
      c ^^^ all ^^^ double (c ^^^ d), d ^^^ all ^^^ double (d ^^^ a)]
  | column => column

/-- Every column of the block is mixed by itself. -/
def mixColumns (block : List UInt8) : List UInt8 := (Bytes.pieces 4 4 block).flatMap mixColumn

/-- Lengthens a key schedule, kept last word first, by `n` words of four bytes. -/
def stretch : Nat → List (List UInt8) → List (List UInt8)
  | 0, words => words
  | n + 1, words =>
    let position := words.length
    let last := words.headD []
    let mixed :=
      if position % 8 = 0 then
        let turned := (last.drop 1 ++ last.take 1).map substitute
        let constant := (List.range (position / 8 - 1)).foldl (fun c _ => double c) 1
        Bytes.xor turned [constant, 0, 0, 0]
      else if position % 8 = 4 then last.map substitute
      else last
    stretch n (Bytes.xor (words.getD 7 []) mixed :: words)

/-- The fifteen 16-byte round keys of a 32-byte key. -/
def roundKeys (key : List UInt8) : List (List UInt8) :=
  let words := stretch 52 (Bytes.pieces 4 8 key).reverse
  Bytes.pieces 16 15 words.reverse.flatten

/-- Encrypts one block under the round keys. -/
def encrypt (keys : List (List UInt8)) (block : List UInt8) : List UInt8 :=
  let whitened := Bytes.xor block (keys.headD [])
  let round (block key : List UInt8) :=
    Bytes.xor (mixColumns (shiftRows (block.map substitute))) key
  let inner := ((keys.drop 1).take 13).foldl round whitened
  Bytes.xor (shiftRows (inner.map substitute)) (keys.getD 14 [])

end Teller.Crypto.Aes
