import Teller.Proofs.Text.Utf8
import Teller.Text.Base64

/-!
# Base64 there and back

Writing in base64 cuts the bytes into six-bit values and spells each of them as a letter. Both steps
can be undone, as no two values have the same letter. Reading is as strict as that allows: what it
accepts is what writing produces, so every byte string has one text.
-/

namespace Teller.Base64

/-- The six-bit values of some bytes, the last one filled with zeros. -/
def sextets : List UInt8 → List Nat
  | [] => []
  | [x] => [x.toNat / 4, x.toNat % 4 * 16]
  | [x, y] => [x.toNat / 4, x.toNat % 4 * 16 + y.toNat / 16, y.toNat % 16 * 4]
  | x :: y :: z :: rest =>
    x.toNat / 4 :: (x.toNat % 4 * 16 + y.toNat / 16) :: (y.toNat % 16 * 4 + z.toNat / 64) ::
      z.toNat % 64 :: sextets rest

theorem encode_eq_map (a : Alphabet) (bytes : List UInt8) :
    encode a bytes = (sextets bytes).map a.letter := by
  induction bytes using encode.induct with
  | case1 => rfl
  | case2 x => rfl
  | case3 x y => rfl
  | case4 x y z rest ih => simp only [encode, sextets, List.map_cons, ih]

theorem lt_of_mem_sextets {bytes : List UInt8} {value : Nat} (h : value ∈ sextets bytes) :
    value < 64 := by
  induction bytes using sextets.induct with
  | case1 => cases h
  | case2 x =>
    have := x.toNat_lt
    simp only [sextets, List.mem_cons, List.not_mem_nil, or_false] at h
    omega
  | case3 x y =>
    have := x.toNat_lt
    have := y.toNat_lt
    simp only [sextets, List.mem_cons, List.not_mem_nil, or_false] at h
    omega
  | case4 x y z rest ih =>
    have := x.toNat_lt
    have := y.toNat_lt
    have := z.toNat_lt
    simp only [sextets, List.mem_cons] at h
    rcases h with h | h | h | h | h
    · omega
    · omega
    · omega
    · omega
    · exact ih h

/-- All that is written is in letters of the alphabet. -/
theorem mem_letters_of_mem_encode {a : Alphabet} (all : a.letters.length = 64) {bytes : List UInt8}
    {c : Char} (h : c ∈ encode a bytes) : c ∈ a.letters := by
  rw [encode_eq_map] at h
  obtain ⟨value, mem, rfl⟩ := List.mem_map.1 h
  have small : value < a.letters.length := all ▸ lt_of_mem_sextets mem
  rw [Alphabet.letter, List.getD_eq_getElem?_getD, List.getElem?_eq_getElem small]
  exact List.getElem_mem small

/-- Three bytes are four letters. -/
theorem length_encode (a : Alphabet) (bytes : List UInt8) :
    (encode a bytes).length = (4 * bytes.length + 2) / 3 := by
  induction bytes using encode.induct with
  | case1 => rfl
  | case2 x => simp [encode]
  | case3 x y => simp [encode]
  | case4 x y z rest ih =>
    simp only [encode, List.length_cons, ih]
    omega

theorem toUInt8_of_eq {n : Nat} {b : UInt8} (h : n = b.toNat) : n.toUInt8 = b := by
  rw [h]
  exact UInt8.ofNat_toNat

/-- The bytes come back from their six-bit values. -/
theorem join_sextets (bytes : List UInt8) : join (sextets bytes) = some bytes := by
  induction bytes using sextets.induct with
  | case1 => rfl
  | case2 x =>
    rw [sextets, join, if_pos (by omega), toUInt8_of_eq (b := x) (by omega)]
  | case3 x y =>
    rw [sextets, join, if_pos (by omega), toUInt8_of_eq (b := x) (by have := y.toNat_lt; omega),
      toUInt8_of_eq (b := y) (by have := y.toNat_lt; omega)]
  | case4 x y z rest ih =>
    have := y.toNat_lt
    have := z.toNat_lt
    simp only [sextets, join, ih, Option.map_some, Option.some.injEq, List.cons.injEq, and_true]
    exact ⟨toUInt8_of_eq (by omega), toUInt8_of_eq (by omega), toUInt8_of_eq (by omega)⟩

/-- No two of the 64 values have the same letter. -/
def Alphabet.Distinct (a : Alphabet) : Prop :=
  ∀ value < 64, a.value? (a.letter value) = some value

theorem distinct_urlSafe : urlSafe.Distinct := by
  unfold Alphabet.Distinct
  decide +kernel

theorem distinct_standard : standard.Distinct := by
  unfold Alphabet.Distinct
  decide +kernel

variable {a : Alphabet}

/-- Values are read from their letters. -/
theorem mapM_letters (distinct : a.Distinct) (values : List Nat) (small : ∀ v ∈ values, v < 64) :
    (values.map a.letter).mapM a.value? = some values := by
  induction values with
  | nil => rfl
  | cons v values ih =>
    rw [List.map_cons, List.mapM_cons, distinct v (small v List.mem_cons_self),
      ih fun w hw => small w (List.mem_cons_of_mem _ hw)]
    rfl

/-- Bytes are read from the text that they are written as. -/
theorem decode_encode (distinct : a.Distinct) (bytes : List UInt8) :
    decode a (encode a bytes) = some bytes := by
  rw [decode, encode_eq_map, mapM_letters distinct _ fun _ => lt_of_mem_sextets, Option.bind_some,
    join_sextets]

theorem encode_injective (distinct : a.Distinct) : Function.Injective (encode a) := by
  intro bytes bytes' same
  have read := decode_encode distinct bytes
  rw [same, decode_encode distinct] at read
  exact (Option.some.inj read).symm

/-! ### One text for each byte string -/

/-- Values that can be joined are the ones that the joined bytes are cut into. -/
theorem eq_sextets_of_join {values : List Nat} (small : ∀ v ∈ values, v < 64)
    {bytes : List UInt8} (h : join values = some bytes) : values = sextets bytes := by
  -- The second and third case of `join` are split by the bits that are left over: unless they are
  -- zero, nothing is joined.
  induction values using join.induct generalizing bytes with
  | case1 =>
    cases h
    rfl
  | case2 p => cases h
  | case3 p q zero =>
    obtain ⟨hp, hq⟩ : p < 64 ∧ q < 64 := by simpa using small
    rw [join, if_pos zero] at h
    cases h
    simp only [sextets, Utf8.toNat_toUInt8 (show p * 4 + q / 16 < 256 by omega), List.cons.injEq,
      and_true]
    omega
  | case4 p q bits =>
    rw [join, if_neg bits] at h
    cases h
  | case5 p q r zero =>
    obtain ⟨hp, hq, hr⟩ : p < 64 ∧ q < 64 ∧ r < 64 := by simpa using small
    rw [join, if_pos zero] at h
    cases h
    simp only [sextets, Utf8.toNat_toUInt8 (show p * 4 + q / 16 < 256 by omega),
      Utf8.toNat_toUInt8 (show q % 16 * 16 + r / 4 < 256 by omega), List.cons.injEq, and_true]
    omega
  | case6 p q r bits =>
    rw [join, if_neg bits] at h
    cases h
  | case7 p q r s rest ih =>
    obtain ⟨hp, hq, hr, hs, later⟩ :
        p < 64 ∧ q < 64 ∧ r < 64 ∧ s < 64 ∧ ∀ v ∈ rest, v < 64 := by simpa using small
    rw [join] at h
    obtain ⟨more, joined, rfl⟩ := Option.map_eq_some_iff.1 h
    simp only [sextets, Utf8.toNat_toUInt8 (show p * 4 + q / 16 < 256 by omega),
      Utf8.toNat_toUInt8 (show q % 16 * 16 + r / 4 < 256 by omega),
      Utf8.toNat_toUInt8 (show r % 4 * 64 + s < 256 by omega), ← ih later joined,
      List.cons.injEq, and_true]
    omega

theorem letter_of_value? {c : Char} {value : Nat} (h : a.value? c = some value) :
    a.letter value = c ∧ value < a.letters.length := by
  obtain ⟨small, found, -⟩ := List.idxOf?_eq_some_iff.1 h
  refine ⟨?_, small⟩
  rw [Alphabet.letter, List.getD_eq_getElem?_getD, List.getElem?_eq_getElem small]
  exact found

/-- Letters that are read are the ones that their values are spelled with. -/
theorem eq_map_letter_of_mapM {text : List Char} {values : List Nat}
    (h : text.mapM a.value? = some values) :
    text = values.map a.letter ∧ ∀ v ∈ values, v < a.letters.length := by
  induction text generalizing values with
  | nil =>
    cases h
    exact ⟨rfl, List.forall_mem_nil _⟩
  | cons c text ih =>
    rw [List.mapM_cons] at h
    obtain ⟨v, first, h⟩ := Option.bind_eq_some_iff.1 h
    obtain ⟨later, rest, h⟩ := Option.bind_eq_some_iff.1 h
    cases h
    obtain ⟨rfl, small⟩ := letter_of_value? first
    obtain ⟨rfl, smaller⟩ := ih rest
    exact ⟨rfl, List.forall_mem_cons.2 ⟨small, smaller⟩⟩

/-- Bytes are read from no other text than the one that they are written as. -/
theorem eq_encode_of_decode (all : a.letters.length = 64) {text : List Char} {bytes : List UInt8}
    (h : decode a text = some bytes) : text = encode a bytes := by
  obtain ⟨values, read, joined⟩ := Option.bind_eq_some_iff.1 h
  obtain ⟨rfl, small⟩ := eq_map_letter_of_mapM read
  rw [encode_eq_map, ← eq_sextets_of_join (all ▸ small) joined]

theorem decode_urlSafe_iff {text : List Char} {bytes : List UInt8} :
    decode urlSafe text = some bytes ↔ text = encode urlSafe bytes := by
  constructor
  · exact eq_encode_of_decode rfl
  · rintro rfl
    exact decode_encode distinct_urlSafe bytes

end Teller.Base64
