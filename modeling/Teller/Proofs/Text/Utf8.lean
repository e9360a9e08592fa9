import Teller.Text.Utf8

/-!
# UTF-8 there and back

A character is read from the bytes that it was written as, whatever follows them, and so is a text.
The characters of ASCII are bytes of their own; the bytes of all others lie above them.
-/

namespace Teller.Utf8

@[simp] theorem encode_nil : encode [] = [] := rfl

@[simp] theorem encode_cons (c : Char) (text : List Char) :
    encode (c :: text) = encodeChar c ++ encode text := List.flatMap_cons

@[simp] theorem encode_append (front back : List Char) :
    encode (front ++ back) = encode front ++ encode back := List.flatMap_append

theorem encodeChar_of_lt {c : Char} (ascii : c.toNat < 0x80) :
    encodeChar c = [c.toNat.toUInt8] := if_pos ascii

theorem toNat_toUInt8 {n : Nat} (small : n < 256) : n.toUInt8.toNat = n := by
  rw [Nat.toUInt8, UInt8.toNat_ofNat']
  omega

theorem toNat_continuation (n : Nat) : (continuation n).toNat = 0x80 + n % 64 :=
  toNat_toUInt8 (by omega)

theorem announced_eq (lead : UInt8) : announced lead =
    if lead.toNat < 0x80 then (0, 0)
    else if lead.toNat < 0xE0 then (1, 0xC0 * 64)
    else if lead.toNat < 0xF0 then (2, 0xE0 * 4096)
    else (3, 0xF0 * 262144) := by
  simp only [announced, UInt8.lt_iff_toNat_lt]
  rfl

theorem toNat_lt (c : Char) : c.toNat < 0x110000 := by
  have := c.valid
  simp only [UInt32.isValidChar, Nat.isValidChar] at this
  change c.val.toNat < 0x110000
  omega

/-- A character is read if its lead byte announces the bytes after it. -/
theorem decodeChar_of {c : Char} {lead : UInt8} {tail : List UInt8} {m : Nat}
    (written : encodeChar c = lead :: tail) (count : announced lead = (tail.length, m))
    (value : codePoint lead tail = m + c.toNat) (rest : List UInt8) :
    decodeChar (encodeChar c ++ rest) = some (c, rest) := by
  have point : codePoint lead tail - m = c.toNat := by omega
  simp only [written, List.cons_append, decodeChar, count, List.take_left, List.drop_left, point,
    Char.ofNat_toNat, if_true]

theorem decodeChar_encodeChar (c : Char) (rest : List UInt8) :
    decodeChar (encodeChar c ++ rest) = some (c, rest) := by
  have bound := toNat_lt c
  -- One case for each length. `m` is what the mark of the first byte is worth in its place.
  by_cases one : c.toNat < 0x80
  · have lead : c.toNat.toUInt8.toNat = c.toNat := toNat_toUInt8 (by omega)
    refine decodeChar_of (encodeChar_of_lt one) (m := 0) ?_ ?_ rest
    · rw [announced_eq, lead, if_pos one]
      rfl
    · rw [codePoint, List.foldl_nil, lead]
      omega
  by_cases two : c.toNat < 0x800
  · have lead : (0xC0 + c.toNat / 64).toUInt8.toNat = 0xC0 + c.toNat / 64 :=
      toNat_toUInt8 (by omega)
    refine decodeChar_of (by rw [encodeChar, if_neg one, if_pos two]) (m := 0xC0 * 64) ?_ ?_
      rest
    · rw [announced_eq, lead, if_neg (by omega), if_pos (by omega)]
      rfl
    · simp only [codePoint, List.foldl_cons, List.foldl_nil, lead, toNat_continuation]
      omega
  by_cases three : c.toNat < 0x10000
  · have lead : (0xE0 + c.toNat / 4096).toUInt8.toNat = 0xE0 + c.toNat / 4096 :=
      toNat_toUInt8 (by omega)
    refine decodeChar_of (by rw [encodeChar, if_neg one, if_neg two, if_pos three])
      (m := 0xE0 * 4096) ?_ ?_ rest
    · rw [announced_eq, lead, if_neg (by omega), if_neg (by omega), if_pos (by omega)]
      rfl
    · simp only [codePoint, List.foldl_cons, List.foldl_nil, lead, toNat_continuation]
      omega
  · have lead : (0xF0 + c.toNat / 262144).toUInt8.toNat = 0xF0 + c.toNat / 262144 :=
      toNat_toUInt8 (by omega)
    refine decodeChar_of (by rw [encodeChar, if_neg one, if_neg two, if_neg three])
      (m := 0xF0 * 262144) ?_ ?_ rest
    · rw [announced_eq, lead, if_neg (by omega), if_neg (by omega), if_neg (by omega)]
      rfl
    · simp only [codePoint, List.foldl_cons, List.foldl_nil, lead, toNat_continuation]
      omega

theorem encodeChar_ne_nil (c : Char) : encodeChar c ≠ [] := by
  unfold encodeChar
  dsimp only
  repeat' split
  all_goals exact List.cons_ne_nil _ _

/-- A text is read from its bytes. -/
theorem decode_encode (text : List Char) : decode (encode text) = some text := by
  induction text with
  | nil => simp [decode]
  | cons c text ih =>
    have read := decodeChar_encodeChar c (encode text)
    have nonempty : (encodeChar c ++ encode text).isEmpty = false := by simp [encodeChar_ne_nil]
    rw [encode_cons, decode, nonempty, if_neg Bool.false_ne_true]
    split
    · next h =>
      rw [read] at h
      cases h
    · next h =>
      rw [read] at h
      cases h
      rw [ih]
      rfl

theorem toString?_encode (text : List Char) :
    toString? (encode text) = some (String.ofList text) := by
  rw [toString?, decode_encode]
  rfl

/-- The bytes of a character beyond ASCII lie beyond ASCII. -/
theorem le_of_mem_encodeChar {c : Char} (beyond : 0x80 ≤ c.toNat) {b : UInt8}
    (h : b ∈ encodeChar c) : 0x80 ≤ b.toNat := by
  have bound := toNat_lt c
  have later (n : Nat) : 0x80 ≤ (continuation n).toNat := by
    rw [toNat_continuation]
    omega
  unfold encodeChar at h
  dsimp only at h
  split at h
  · omega
  · split at h
    · simp only [List.mem_cons, List.not_mem_nil, or_false] at h
      rcases h with rfl | rfl
      · rw [toNat_toUInt8 (by omega)]
        omega
      · exact later _
    · split at h
      · simp only [List.mem_cons, List.not_mem_nil, or_false] at h
        rcases h with rfl | rfl | rfl
        · rw [toNat_toUInt8 (by omega)]
          omega
        · exact later _
        · exact later _
      · simp only [List.mem_cons, List.not_mem_nil, or_false] at h
        rcases h with rfl | rfl | rfl | rfl
        · rw [toNat_toUInt8 (by omega)]
          omega
        · exact later _
        · exact later _
        · exact later _

end Teller.Utf8
