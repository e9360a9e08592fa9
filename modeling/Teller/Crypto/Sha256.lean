import Teller.Bytes

/-!
# SHA-256 and HMAC

The hash of a byte string and the keyed code built on it.

The message is followed by a byte `0x80`, by zeros and by its length in bits, and cut into pieces of
64 bytes. The sixteen words of a piece are stretched to 64, one for each round on the eight words of
the state.
-/

namespace Teller.Crypto.Sha256

/-- The first 32 bits of the fractional parts of the cube roots of the first 64 primes. -/
def roundConstants : Array UInt32 := #[
  0x428a2f98, 0x71374491, 0xb5c0fbcf, 0xe9b5dba5, 0x3956c25b, 0x59f111f1, 0x923f82a4, 0xab1c5ed5,
  0xd807aa98, 0x12835b01, 0x243185be, 0x550c7dc3, 0x72be5d74, 0x80deb1fe, 0x9bdc06a7, 0xc19bf174,
  0xe49b69c1, 0xefbe4786, 0x0fc19dc6, 0x240ca1cc, 0x2de92c6f, 0x4a7484aa, 0x5cb0a9dc, 0x76f988da,
  0x983e5152, 0xa831c66d, 0xb00327c8, 0xbf597fc7, 0xc6e00bf3, 0xd5a79147, 0x06ca6351, 0x14292967,
  0x27b70a85, 0x2e1b2138, 0x4d2c6dfc, 0x53380d13, 0x650a7354, 0x766a0abb, 0x81c2c92e, 0x92722c85,
  0xa2bfe8a1, 0xa81a664b, 0xc24b8b70, 0xc76c51a3, 0xd192e819, 0xd6990624, 0xf40e3585, 0x106aa070,
  0x19a4c116, 0x1e376c08, 0x2748774c, 0x34b0bcb5, 0x391c0cb3, 0x4ed8aa4a, 0x5b9cca4f, 0x682e6ff3,
  0x748f82ee, 0x78a5636f, 0x84c87814, 0x8cc70208, 0x90befffa, 0xa4506ceb, 0xbef9a3f7, 0xc67178f2]

/-- The eight words that the pieces of a message change one after the other. -/
structure State where
  a : UInt32
  b : UInt32
  c : UInt32
  d : UInt32
  e : UInt32
  f : UInt32
  g : UInt32
  h : UInt32

/-- The first 32 bits of the fractional parts of the square roots of the first eight primes. -/
def initial : State :=
  ⟨0x6a09e667, 0xbb67ae85, 0x3c6ef372, 0xa54ff53a, 0x510e527f, 0x9b05688c, 0x1f83d9ab, 0x5be0cd19⟩

/-- The bits that leave on the right come in on the left. -/
def rotateRight (x : UInt32) (n : UInt32) : UInt32 := (x >>> n) ||| (x <<< (32 - n))

/-- Stretches a message schedule by `n` words. -/
def stretch : Nat → Array UInt32 → Array UInt32
  | 0, w => w
  | n + 1, w =>
    let back (k : Nat) := w.getD (w.size - k) 0
    let s0 := rotateRight (back 15) 7 ^^^ rotateRight (back 15) 18 ^^^ (back 15 >>> 3)
    let s1 := rotateRight (back 2) 17 ^^^ rotateRight (back 2) 19 ^^^ (back 2 >>> 10)
    stretch n (w.push (s1 + back 7 + s0 + back 16))

/-- One round, mixing in a schedule word and its round constant. -/
def round (s : State) (word constant : UInt32) : State :=
  let s1 := rotateRight s.e 6 ^^^ rotateRight s.e 11 ^^^ rotateRight s.e 25
  let choice := (s.e &&& s.f) ^^^ ((s.e ^^^ 0xffffffff) &&& s.g)
  let t1 := s.h + s1 + choice + constant + word
  let s0 := rotateRight s.a 2 ^^^ rotateRight s.a 13 ^^^ rotateRight s.a 22
  let majority := (s.a &&& s.b) ^^^ (s.a &&& s.c) ^^^ (s.b &&& s.c)
  ⟨t1 + s0 + majority, s.a, s.b, s.c, s.d + t1, s.e, s.f, s.g⟩

/-- The sums of the words. -/
def State.add (s t : State) : State :=
  ⟨s.a + t.a, s.b + t.b, s.c + t.c, s.d + t.d, s.e + t.e, s.f + t.f, s.g + t.g, s.h + t.h⟩

/-- Absorbs one piece of 64 bytes. -/
def compress (s : State) (piece : List UInt8) : State :=
  let words := (Bytes.pieces 4 16 piece).map fun b => (Bytes.ofBigEndian b).toUInt32
  let schedule := stretch 48 words.toArray
  s.add ((schedule.zip roundConstants).foldl (fun s w => round s w.1 w.2) s)

/-- The message, a one bit, zeros, and the length in bits: a whole number of 64-byte pieces. -/
def pad (message : List UInt8) : List UInt8 :=
  let zeros := (119 - message.length % 64) % 64
  message ++ 0x80 :: List.replicate zeros 0 ++ Bytes.bigEndian 8 (8 * message.length)

/-- The 32-byte hash of `message`. -/
def hash (message : List UInt8) : List UInt8 :=
  let padded := pad message
  let s := (Bytes.pieces 64 (padded.length / 64) padded).foldl compress initial
  [s.a, s.b, s.c, s.d, s.e, s.f, s.g, s.h].flatMap fun w => Bytes.bigEndian 4 w.toNat

/-- A key as one 64-byte piece: hashed first if longer, then filled with zeros. -/
def keyPiece (key : List UInt8) : List UInt8 :=
  let short := if key.length > 64 then hash key else key
  short ++ List.replicate (64 - short.length) 0

/-- The 32-byte authentication code of `message` under `key`. -/
def hmac (key message : List UInt8) : List UInt8 :=
  let piece := keyPiece key
  hash (piece.map (· ^^^ 0x5c) ++ hash (piece.map (· ^^^ 0x36) ++ message))

@[simp] theorem length_hash (message : List UInt8) : (hash message).length = 32 := by
  simp [hash]

@[simp] theorem length_hmac (key message : List UInt8) : (hmac key message).length = 32 := by
  simp [hmac]

end Teller.Crypto.Sha256
