import Teller.Bytes

/-!
# BLAKE2b

A hash of one to 64 bytes without a key.

The message is filled up with zeros and cut into pieces of 128 bytes, at least one. Each piece takes
twelve rounds on sixteen words: eight are the state, and eight are fixed but for the length so far
and a mark on the last piece.
-/

namespace Teller.Crypto.Blake2b

/-- The first 64 bits of the fractional parts of the square roots of the first eight primes. -/
def initial : Array UInt64 := #[
  0x6a09e667f3bcc908, 0xbb67ae8584caa73b, 0x3c6ef372fe94f82b, 0xa54ff53a5f1d36f1,
  0x510e527fade682d1, 0x9b05688c2b3e6c1f, 0x1f83d9abfb41bd6b, 0x5be0cd19137e2179]

/-- The two words of a piece that each quarter takes, round by round. -/
def orders : List (List (Nat × Nat)) := [
  [(0, 1), (2, 3), (4, 5), (6, 7), (8, 9), (10, 11), (12, 13), (14, 15)],
  [(14, 10), (4, 8), (9, 15), (13, 6), (1, 12), (0, 2), (11, 7), (5, 3)],
  [(11, 8), (12, 0), (5, 2), (15, 13), (10, 14), (3, 6), (7, 1), (9, 4)],
  [(7, 9), (3, 1), (13, 12), (11, 14), (2, 6), (5, 10), (4, 0), (15, 8)],
  [(9, 0), (5, 7), (2, 4), (10, 15), (14, 1), (11, 12), (6, 8), (3, 13)],
  [(2, 12), (6, 10), (0, 11), (8, 3), (4, 13), (7, 5), (15, 14), (1, 9)],
  [(12, 5), (1, 15), (14, 13), (4, 10), (0, 7), (6, 3), (9, 2), (8, 11)],
  [(13, 11), (7, 14), (12, 1), (3, 9), (5, 0), (15, 4), (8, 6), (2, 10)],
  [(6, 15), (14, 9), (11, 3), (0, 8), (12, 2), (13, 7), (1, 4), (10, 5)],
  [(10, 2), (8, 4), (7, 6), (1, 5), (15, 11), (9, 14), (3, 12), (13, 0)],
  [(0, 1), (2, 3), (4, 5), (6, 7), (8, 9), (10, 11), (12, 13), (14, 15)],
  [(14, 10), (4, 8), (9, 15), (13, 6), (1, 12), (0, 2), (11, 7), (5, 3)]]

/-- The columns, then the diagonals, of the sixteen words laid out four by four. -/
def quarters : List (Nat × Nat × Nat × Nat) := [
  (0, 4, 8, 12), (1, 5, 9, 13), (2, 6, 10, 14), (3, 7, 11, 15),
  (0, 5, 10, 15), (1, 6, 11, 12), (2, 7, 8, 13), (3, 4, 9, 14)]

/-- The bits that leave on the right come in on the left. -/
@[inline] def rotateRight (x : UInt64) (n : UInt64) : UInt64 := (x >>> n) ||| (x <<< (64 - n))

/-- Mixes two message words into four words of the state. -/
def mix (v : Array UInt64) (at4 : Nat × Nat × Nat × Nat) (x y : UInt64) : Array UInt64 :=
  let (i, j, k, l) := at4
  let (a, b, c, d) := (v.getD i 0, v.getD j 0, v.getD k 0, v.getD l 0)
  let a := a + b + x
  let d := rotateRight (d ^^^ a) 32
  let c := c + d
  let b := rotateRight (b ^^^ c) 24
  let a := a + b + y
  let d := rotateRight (d ^^^ a) 16
  let c := c + d
  let b := rotateRight (b ^^^ c) 63
  (((v.setIfInBounds i a).setIfInBounds j b).setIfInBounds k c).setIfInBounds l d

/-- One round over the words of a piece. -/
def round (words v : Array UInt64) (order : List (Nat × Nat)) : Array UInt64 :=
  (quarters.zip order).foldl
    (fun v (q, x, y) => mix v q (words.getD x 0) (words.getD y 0)) v

/-- Absorbs one piece of 128 bytes; `length` counts the message up to its end. -/
def compress (h : Array UInt64) (piece : List UInt8) (length : Nat) (last : Bool) : Array UInt64 :=
  let words := ((Bytes.pieces 8 16 piece).map fun b => (Bytes.ofLittleEndian b).toUInt64).toArray
  let marks := #[0, 0, 0, 0, length.toUInt64, (length >>> 64).toUInt64,
    if last then 0xffffffffffffffff else 0, 0]
  let v := h ++ initial.zipWith (· ^^^ ·) marks
  let v := orders.foldl (round words) v
  h.zipWith (· ^^^ ·) ((v.extract 0 8).zipWith (· ^^^ ·) (v.extract 8 16))

/-- The hash of `message`, `size` bytes long. -/
def hash (size : Nat) (message : List UInt8) : List UInt8 :=
  let count := max 1 (Bytes.pieceCount 128 message.length)
  let padded := message ++ List.replicate (128 * count - message.length) 0
  let start := initial.modify 0 (· ^^^ (0x01010000 + size.toUInt64))
  let h := (Bytes.pieces 128 count padded).zipIdx.foldl
    (fun h (piece, i) =>
      compress h piece (min (128 * (i + 1)) message.length) (i + 1 == count)) start
  (h.toList.flatMap fun w => Bytes.littleEndian 8 w.toNat).take size

end Teller.Crypto.Blake2b
