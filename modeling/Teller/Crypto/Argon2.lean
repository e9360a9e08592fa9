import Teller.Crypto.Blake2b

/-!
# Argon2

A slow hash for passwords that fills a memory of 1024-byte blocks several times over.

    lane 0   [ slice 0 | slice 1 | slice 2 | slice 3 ]     each block mixes the one before it
    lane 1   [ slice 0 | slice 1 | slice 2 | slice 3 ]     with an earlier one chosen by
    …                                                      pseudo-random bits

The two first blocks of each lane come from the password, and the last blocks of all lanes make the
output. Inside a slice a lane refers to other lanes only where they are finished, so the lanes can
be filled one after the other.
-/

namespace Teller.Crypto.Argon2

/-- Where the pseudo-random bits come from. -/
inductive Variant where
  /-- From the blocks themselves. -/
  | dependent
  /-- From a counter. -/
  | independent
  /-- From a counter in the first half of the first pass, and from the blocks after it. -/
  | hybrid
deriving DecidableEq

/-- The number by which the variant goes into the hash. -/
def Variant.number : Variant → Nat
  | .dependent => 0
  | .independent => 1
  | .hybrid => 2

/-- The first version overwrites blocks on later passes; the second one adds to them. -/
inductive Version where
  | first
  | second
deriving DecidableEq

/-- The number by which the version goes into the hash. -/
def Version.number : Version → Nat
  | .first => 16
  | .second => 19

/-- The memory in blocks, the number of passes over it, and the number of lanes. -/
structure Cost where
  memory : Nat
  passes : Nat
  lanes : Nat
deriving DecidableEq

/-- The blocks of a quarter of a lane. -/
def Cost.segment (c : Cost) : Nat := c.memory / (4 * c.lanes)

/-- A lane has four segments. -/
def Cost.laneLength (c : Cost) : Nat := 4 * c.segment

/-- The blocks in use: a multiple of four for each lane. -/
def Cost.blocks (c : Cost) : Nat := c.lanes * c.laneLength

/-! ## Blocks -/

/-- Sixteen words, an eighth of a block. -/
structure Row where
  w0 : UInt64
  w1 : UInt64
  w2 : UInt64
  w3 : UInt64
  w4 : UInt64
  w5 : UInt64
  w6 : UInt64
  w7 : UInt64
  w8 : UInt64
  w9 : UInt64
  w10 : UInt64
  w11 : UInt64
  w12 : UInt64
  w13 : UInt64
  w14 : UInt64
  w15 : UInt64

/-- Four words that are mixed with each other. -/
structure Quarter where
  a : UInt64
  b : UInt64
  c : UInt64
  d : UInt64

/-- A sum to which the product of the low halves is added twice. -/
@[inline] def mixedSum (x y : UInt64) : UInt64 :=
  x + y + 2 * ((x &&& 0xffffffff) * (y &&& 0xffffffff))

/-- The round function of BLAKE2b, with products added to its sums. -/
@[inline] def mix (q : Quarter) : Quarter :=
  let a := mixedSum q.a q.b
  let d := Blake2b.rotateRight (q.d ^^^ a) 32
  let c := mixedSum q.c d
  let b := Blake2b.rotateRight (q.b ^^^ c) 24
  let a := mixedSum a b
  let d := Blake2b.rotateRight (d ^^^ a) 16
  let c := mixedSum c d
  let b := Blake2b.rotateRight (b ^^^ c) 63
  ⟨a, b, c, d⟩

namespace Row

/-- Mixes the columns, then the diagonals, of the words laid out four by four. -/
def permute (r : Row) : Row :=
  let p := mix ⟨r.w0, r.w4, r.w8, r.w12⟩
  let q := mix ⟨r.w1, r.w5, r.w9, r.w13⟩
  let s := mix ⟨r.w2, r.w6, r.w10, r.w14⟩
  let t := mix ⟨r.w3, r.w7, r.w11, r.w15⟩
  let e := mix ⟨p.a, q.b, s.c, t.d⟩
  let f := mix ⟨q.a, s.b, t.c, p.d⟩
  let g := mix ⟨s.a, t.b, p.c, q.d⟩
  let h := mix ⟨t.a, p.b, q.c, s.d⟩
  ⟨e.a, f.a, g.a, h.a, h.b, e.b, f.b, g.b, g.c, h.c, e.c, f.c, f.d, g.d, h.d, e.d⟩

def xor (r s : Row) : Row :=
  ⟨r.w0 ^^^ s.w0, r.w1 ^^^ s.w1, r.w2 ^^^ s.w2, r.w3 ^^^ s.w3, r.w4 ^^^ s.w4, r.w5 ^^^ s.w5,
    r.w6 ^^^ s.w6, r.w7 ^^^ s.w7, r.w8 ^^^ s.w8, r.w9 ^^^ s.w9, r.w10 ^^^ s.w10, r.w11 ^^^ s.w11,
    r.w12 ^^^ s.w12, r.w13 ^^^ s.w13, r.w14 ^^^ s.w14, r.w15 ^^^ s.w15⟩

/-- The sixteen words in order. -/
def words (r : Row) : List UInt64 :=
  [r.w0, r.w1, r.w2, r.w3, r.w4, r.w5, r.w6, r.w7, r.w8, r.w9, r.w10, r.w11, r.w12, r.w13, r.w14,
    r.w15]

/-- The sixteen words of `w` from `i` on. -/
def ofWords (w : Array UInt64) (i : Nat) : Row :=
  let at' (k : Nat) := w.getD (i + k) 0
  ⟨at' 0, at' 1, at' 2, at' 3, at' 4, at' 5, at' 6, at' 7, at' 8, at' 9, at' 10, at' 11, at' 12,
    at' 13, at' 14, at' 15⟩

end Row

/-- A block of 1024 bytes, as eight rows of words. -/
structure Block where
  r0 : Row
  r1 : Row
  r2 : Row
  r3 : Row
  r4 : Row
  r5 : Row
  r6 : Row
  r7 : Row

namespace Block

/-- A block from 128 words; missing words are zero. -/
def ofWords (w : Array UInt64) : Block :=
  ⟨.ofWords w 0, .ofWords w 16, .ofWords w 32, .ofWords w 48, .ofWords w 64, .ofWords w 80,
    .ofWords w 96, .ofWords w 112⟩

def zero : Block := ofWords #[]

/-- The 128 words, row by row. -/
def words (b : Block) : List UInt64 :=
  [b.r0, b.r1, b.r2, b.r3, b.r4, b.r5, b.r6, b.r7].flatMap Row.words

/-- The block that 1024 bytes spell, eight to a word with the least first. -/
def ofBytes (bytes : List UInt8) : Block :=
  ofWords ((Bytes.pieces 8 128 bytes).map fun w => (Bytes.ofLittleEndian w).toUInt64).toArray

/-- The bytes of the block, the least of each word first. -/
def bytes (b : Block) : List UInt8 := b.words.flatMap fun w => Bytes.littleEndian 8 w.toNat

def xor (a b : Block) : Block :=
  ⟨a.r0.xor b.r0, a.r1.xor b.r1, a.r2.xor b.r2, a.r3.xor b.r3, a.r4.xor b.r4, a.r5.xor b.r5,
    a.r6.xor b.r6, a.r7.xor b.r7⟩

/-- Each row is permuted by itself. -/
def permuteRows (b : Block) : Block :=
  ⟨b.r0.permute, b.r1.permute, b.r2.permute, b.r3.permute, b.r4.permute, b.r5.permute,
    b.r6.permute, b.r7.permute⟩

/-- A column of pairs of words as a row. -/
@[inline] def column (b : Block) (first second : Row → UInt64) : Row :=
  ⟨first b.r0, second b.r0, first b.r1, second b.r1, first b.r2, second b.r2, first b.r3,
    second b.r3, first b.r4, second b.r4, first b.r5, second b.r5, first b.r6, second b.r6,
    first b.r7, second b.r7⟩

/-- Swaps rows and columns, pairs of words being the entries. -/
def transpose (b : Block) : Block :=
  ⟨b.column Row.w0 Row.w1, b.column Row.w2 Row.w3, b.column Row.w4 Row.w5, b.column Row.w6 Row.w7,
    b.column Row.w8 Row.w9, b.column Row.w10 Row.w11, b.column Row.w12 Row.w13,
    b.column Row.w14 Row.w15⟩

@[simp] theorem transpose_transpose (b : Block) : b.transpose.transpose = b := rfl

/-- Rows, then columns, of the sum of two blocks are mixed, and the sum is added again. -/
def compress (a b : Block) : Block :=
  let sum := a.xor b
  sum.xor sum.permuteRows.transpose.permuteRows.transpose

end Block

/-! ## Filling the memory -/

/-- A hash of any size: 32 bytes of each of a chain of hashes, and all of the last one. -/
def longHash (size : Nat) (message : List UInt8) : List UInt8 :=
  let start := Bytes.littleEndian 4 size ++ message
  if size ≤ 64 then Blake2b.hash size start
  else chain ((size + 31) / 32 - 3) size (Blake2b.hash 64 start)
where
  chain : Nat → Nat → List UInt8 → List UInt8
    | 0, size, v => v.take 32 ++ Blake2b.hash (size - 32) v
    | n + 1, size, v => v.take 32 ++ chain n (size - 32) (Blake2b.hash 64 v)

/-- How a password is hashed: everything but the password and the salt. -/
structure Setting where
  variant : Variant
  version : Version
  cost : Cost
  size : Nat

/-- A piece of input with its length before it. -/
def measured (bytes : List UInt8) : List UInt8 := Bytes.littleEndian 4 bytes.length ++ bytes

/-- The hash of all inputs from which the first blocks are made. -/
def seed (s : Setting) (password salt associated : List UInt8) : List UInt8 :=
  let numbers := [s.cost.lanes, s.size, s.cost.memory, s.cost.passes, s.version.number,
    s.variant.number]
  Blake2b.hash 64 (numbers.flatMap (Bytes.littleEndian 4) ++ measured password ++ measured salt ++
    measured [] ++ measured associated)

/-- A quarter of a lane in one pass. -/
structure Segment where
  pass : Nat
  slice : Nat
  lane : Nat

/-- The pseudo-random words that a counter gives for a segment, if it uses them. -/
def counterWords (s : Setting) (seg : Segment) : Option (Array UInt64) :=
  let counted := match s.variant with
    | .dependent => false
    | .independent => true
    | .hybrid => seg.pass == 0 && seg.slice < 2
  if counted then
    let input (counter : Nat) : Block :=
      .ofWords (#[seg.pass, seg.lane, seg.slice, s.cost.blocks, s.cost.passes, s.variant.number,
        counter].map Nat.toUInt64)
    let block (i : Nat) : Block := Block.zero.compress (Block.zero.compress (input (i + 1)))
    let pieces := List.range (Bytes.pieceCount 128 s.cost.segment)
    some (pieces.flatMap fun i => (block i).words).toArray
  else none

/-- The lane and place of the earlier block that block `i` of a segment mixes in. -/
def reference (s : Setting) (seg : Segment) (i : Nat) (random : UInt64) : Nat × Nat :=
  let { pass, slice, lane } := seg
  let length := s.cost.laneLength
  let segment := s.cost.segment
  let target :=
    if pass = 0 ∧ slice = 0 then lane else (random >>> 32).toNat % s.cost.lanes
  let finished := if pass = 0 then slice * segment else length - segment
  -- The own lane goes as far as the block before; of other lanes only finished segments count, and
  -- at the start of a segment not their last block.
  let area :=
    if target = lane then finished + i - 1 else if i = 0 then finished - 1 else finished
  let start := if pass = 0 ∨ slice = 3 then 0 else (slice + 1) * segment
  -- The square of a random number is small more often than not, so near blocks are preferred.
  let low := (random &&& 0xffffffff).toNat
  let back := (area * ((low * low) >>> 32)) >>> 32
  (target, (start + (area - 1 - back)) % length)

/-- Fills block `i` of a segment. -/
def fillBlock (s : Setting) (seg : Segment) (counted : Option (Array UInt64))
    (memory : Array Block) (i : Nat) : Array Block :=
  let length := s.cost.laneLength
  let place := seg.slice * s.cost.segment + i
  let before := if place = 0 then length - 1 else place - 1
  let previous := memory.getD (seg.lane * length + before) .zero
  let random := match counted with
    | some words => words.getD i 0
    | none => previous.r0.w0
  let (target, chosen) := reference s seg i random
  let new := previous.compress (memory.getD (target * length + chosen) .zero)
  let index := seg.lane * length + place
  if seg.pass = 0 ∨ s.version = .first then memory.setIfInBounds index new
  else memory.setIfInBounds index (new.xor (memory.getD index .zero))

/-- Fills a segment. The first one of a lane has two blocks already in the first pass. -/
def fillSegment (s : Setting) (memory : Array Block) (seg : Segment) : Array Block :=
  let first := if seg.pass = 0 ∧ seg.slice = 0 then 2 else 0
  (List.range' first (s.cost.segment - first)).foldl (fillBlock s seg (counterWords s seg)) memory

/-- All segments in the order in which they are filled. -/
def segments (c : Cost) : List Segment :=
  (List.range c.passes).flatMap fun pass =>
    (List.range 4).flatMap fun slice =>
      (List.range c.lanes).map fun lane => ⟨pass, slice, lane⟩

/-- The memory with the first two blocks of each lane. -/
def firstBlocks (s : Setting) (seed : List UInt8) : Array Block :=
  let block (lane i : Nat) : Block :=
    .ofBytes (longHash 1024 (seed ++ Bytes.littleEndian 4 i ++ Bytes.littleEndian 4 lane))
  (List.range s.cost.lanes).foldl
    (fun memory lane =>
      let start := lane * s.cost.laneLength
      (memory.setIfInBounds start (block lane 0)).setIfInBounds (start + 1) (block lane 1))
    (Array.replicate s.cost.blocks .zero)

/-- The hash of a password, `s.size` bytes long. -/
def hash (s : Setting) (password salt associated : List UInt8) : List UInt8 :=
  let memory := (segments s.cost).foldl (fillSegment s)
    (firstBlocks s (seed s password salt associated))
  let last := (List.range s.cost.lanes).map fun lane =>
    memory.getD ((lane + 1) * s.cost.laneLength - 1) .zero
  longHash s.size (last.foldl Block.xor .zero).bytes

end Teller.Crypto.Argon2
