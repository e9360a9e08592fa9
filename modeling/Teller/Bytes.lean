/-!
# Numbers as bytes

Big-endian and little-endian forms of natural numbers, and bytewise exclusive or. A number too large
for the given count keeps its low bytes.
-/

namespace Teller.Bytes

/-- The `count` low bytes of `n`, least significant first. -/
def littleEndian : Nat → Nat → List UInt8
  | 0, _ => []
  | count + 1, n => n.toUInt8 :: littleEndian count (n / 256)

/-- The `count` low bytes of `n`, most significant first. -/
def bigEndian (count n : Nat) : List UInt8 := (littleEndian count n).reverse

/-- The number that the bytes spell with the least of them first. -/
def ofLittleEndian : List UInt8 → Nat
  | [] => 0
  | b :: rest => b.toNat + 256 * ofLittleEndian rest

/-- The number that the bytes spell with the greatest of them first. -/
def ofBigEndian (bytes : List UInt8) : Nat := ofLittleEndian bytes.reverse

/-- Bytewise exclusive or, as long as the shorter of the two. -/
def xor (a b : List UInt8) : List UInt8 := List.zipWith (· ^^^ ·) a b

/-- Cuts `bytes` into `count` consecutive pieces of `size` bytes. -/
def pieces (size : Nat) : Nat → List UInt8 → List (List UInt8)
  | 0, _ => []
  | count + 1, bytes => bytes.take size :: pieces size count (bytes.drop size)

/-- The number of pieces of `size` bytes that cover `length` bytes. -/
def pieceCount (size length : Nat) : Nat := (length + size - 1) / size

@[simp] theorem length_littleEndian (count n : Nat) : (littleEndian count n).length = count := by
  induction count generalizing n with
  | zero => rfl
  | succ count ih => simp [littleEndian, ih]

@[simp] theorem length_bigEndian (count n : Nat) : (bigEndian count n).length = count := by
  simp [bigEndian]

@[simp] theorem length_xor (a b : List UInt8) : (xor a b).length = min a.length b.length := by
  simp [xor]

theorem xor_xor_cancel : ∀ {a k : List UInt8}, a.length ≤ k.length → xor (xor a k) k = a
  | [], k, _ => by simp [xor]
  | x :: a, [], h => by simp at h
  | x :: a, y :: k, h => by
    have ih := xor_xor_cancel (a := a) (k := k) (by simpa using h)
    simp only [xor, List.zipWith_cons_cons, UInt8.xor_assoc, UInt8.xor_self, UInt8.xor_zero] at ih ⊢
    rw [ih]

end Teller.Bytes
