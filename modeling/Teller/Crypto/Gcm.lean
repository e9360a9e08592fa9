import Teller.Crypto.Aes

/-!
# Authenticated encryption with AES-256 in Galois counter mode

Counter mode with an authentication tag over the ciphertext and the associated data. A plaintext is
xored with a keystream, and the tag of what comes of it is put after it. Decryption calculates the
tag again and compares the two before it takes the keystream away.

Main statements: decryption inverts encryption, and whatever decrypts is the encryption of its
plaintext.
-/

namespace Teller.Crypto.Gcm

/-- Sixteen bytes as one number, the first bit of the text being the highest. -/
abbrev Block := BitVec 128

/-- The sixteen bytes of the block. -/
def Block.toBytes (b : Block) : List UInt8 := Bytes.bigEndian 16 b.toNat

/-- The block of up to sixteen bytes, filled with zeros at the end. -/
def Block.ofBytes (bytes : List UInt8) : Block :=
  BitVec.ofNat 128 (Bytes.ofBigEndian (bytes ++ List.replicate (16 - bytes.length) 0))

/-- One step of a product: `v` is the second factor times a power of `x`. -/
def productStep (x : Block) (zv : Block × Block) (i : Nat) : Block × Block :=
  let (z, v) := zv
  let shifted := v >>> 1
  (if x.getMsbD i then z ^^^ v else z,
    if v.getLsbD 0 then shifted ^^^ (0xE1#8 ++ 0#120) else shifted)

/-- The product in the field of 2¹²⁸ elements, the highest bit being the constant term. -/
def product (x y : Block) : Block := ((List.range 128).foldl (productStep x) (0, y)).1

/-- Sixteen-byte blocks, the last filled with zeros. -/
def blocks (bytes : List UInt8) : List Block :=
  (Bytes.pieces 16 (Bytes.pieceCount 16 bytes.length) bytes).map Block.ofBytes

/-- The keyed hash of the associated data, the ciphertext and their lengths. -/
def digest (h : Block) (associated ciphertext : List UInt8) : Block :=
  let bits (text : List UInt8) := Bytes.bigEndian 8 (8 * text.length)
  let lengths := bits associated ++ bits ciphertext
  (blocks associated ++ blocks ciphertext ++ [Block.ofBytes lengths]).foldl
    (fun acc b => product (acc ^^^ b) h) 0

/-- The counter block of a twelve-byte nonce. -/
def counter (nonce : List UInt8) (n : Nat) : List UInt8 := nonce ++ Bytes.bigEndian 4 n

/-- A key made ready: the cipher and the hash key. -/
structure Key where
  cipher : List UInt8 → Block
  hashKey : Block

/-- The cipher of the key, and what it makes of sixteen zeros to hash with. -/
def Key.ofBytes (key : List UInt8) : Key :=
  let keys := Aes.roundKeys key
  let cipher block := Block.ofBytes (Aes.encrypt keys block)
  ⟨cipher, cipher (List.replicate 16 0)⟩

/-- At least `length` bytes of keystream. -/
def keystream (key : Key) (nonce : List UInt8) (length : Nat) : List UInt8 :=
  (List.range (Bytes.pieceCount 16 length)).flatMap fun i =>
    (key.cipher (counter nonce (i + 2))).toBytes

/-- What authenticates the ciphertext and the associated data. -/
def tag (key : Key) (nonce associated ciphertext : List UInt8) : List UInt8 :=
  (digest key.hashKey associated ciphertext ^^^ key.cipher (counter nonce 1)).toBytes

/-- Adds or removes the keystream. -/
def mask (key : Key) (nonce text : List UInt8) : List UInt8 :=
  Bytes.xor text (keystream key nonce text.length)

/-- The ciphertext of `plaintext` followed by its sixteen-byte tag. -/
def encrypt (key : Key) (nonce associated plaintext : List UInt8) : List UInt8 :=
  let ciphertext := mask key nonce plaintext
  ciphertext ++ tag key nonce associated ciphertext

/-- The plaintext, if `sealed` ends in the tag of what precedes it. -/
def decrypt? (key : Key) (nonce associated sealed : List UInt8) : Option (List UInt8) :=
  if sealed.length < 16 then none
  else
    let ciphertext := sealed.take (sealed.length - 16)
    if sealed.drop (sealed.length - 16) = tag key nonce associated ciphertext then
      some (mask key nonce ciphertext)
    else none

@[simp] theorem length_toBytes (b : Block) : b.toBytes.length = 16 := by simp [Block.toBytes]

@[simp] theorem length_tag (key : Key) (nonce associated ciphertext : List UInt8) :
    (tag key nonce associated ciphertext).length = 16 := by simp [tag]

theorem length_keystream (key : Key) (nonce : List UInt8) (length : Nat) :
    length ≤ (keystream key nonce length).length := by
  have h : ∀ l : List Nat, (l.flatMap fun i => (key.cipher (counter nonce (i + 2))).toBytes).length
      = 16 * l.length := by
    intro l
    induction l with
    | nil => rfl
    | cons i l ih => simp only [List.flatMap_cons, List.length_append, ih, length_toBytes,
        List.length_cons]; omega
  rw [keystream, h, List.length_range, Bytes.pieceCount]
  omega

@[simp] theorem length_mask (key : Key) (nonce text : List UInt8) :
    (mask key nonce text).length = text.length := by
  rw [mask, Bytes.length_xor]
  exact Nat.min_eq_left (length_keystream ..)

theorem mask_mask (key : Key) (nonce text : List UInt8) :
    mask key nonce (mask key nonce text) = text := by
  have h : mask key nonce (mask key nonce text)
      = Bytes.xor (mask key nonce text) (keystream key nonce text.length) := by
    rw [mask, length_mask]
  rw [h, mask, Bytes.xor_xor_cancel (length_keystream ..)]

/-- Decryption gives back what was encrypted. -/
theorem decrypt?_encrypt (key : Key) (nonce associated plaintext : List UInt8) :
    decrypt? key nonce associated (encrypt key nonce associated plaintext) = some plaintext := by
  simp [decrypt?, encrypt, mask_mask]

/-- What decrypts is the encryption of its plaintext. -/
theorem encrypt_of_decrypt? {key : Key} {nonce associated sealed plaintext : List UInt8}
    (h : decrypt? key nonce associated sealed = some plaintext) :
    encrypt key nonce associated plaintext = sealed := by
  simp only [decrypt?] at h
  split at h
  · contradiction
  · split at h
    case isTrue ht =>
      simp only [Option.some.injEq] at h
      subst h
      rw [encrypt, mask_mask, ← ht, List.take_append_drop]
    case isFalse => contradiction

theorem decrypt?_eq_some_iff {key : Key} {nonce associated sealed plaintext : List UInt8} :
    decrypt? key nonce associated sealed = some plaintext ↔
      sealed = encrypt key nonce associated plaintext := by
  constructor
  · exact fun h => (encrypt_of_decrypt? h).symm
  · rintro rfl
    exact decrypt?_encrypt ..

@[simp] theorem length_encrypt (key : Key) (nonce associated plaintext : List UInt8) :
    (encrypt key nonce associated plaintext).length = plaintext.length + 16 := by simp [encrypt]

end Teller.Crypto.Gcm
