import Mathlib.Data.List.Basic
import Teller.Password
import Teller.Proofs.Except
import Teller.Proofs.Text.Base64
import Teller.Proofs.Text.Utf8

/-!
# Passwords and their hashes

A password is accepted against the text that was stored for it. The text is read as the settings
that it was written with, so the same hash is computed again.
-/

namespace Teller

namespace Crypto.Blake2b

theorem size_mix (v : Array UInt64) (at4 : Nat × Nat × Nat × Nat) (x y : UInt64) :
    (mix v at4 x y).size = v.size := by
  simp [mix]

theorem size_round (words v : Array UInt64) (order : List (Nat × Nat)) :
    (round words v order).size = v.size := by
  unfold round
  generalize quarters.zip order = steps
  induction steps generalizing v with
  | nil => rfl
  | cons step steps ih => rw [List.foldl_cons, ih, size_mix]

theorem size_rounds (words v : Array UInt64) (orders : List (List (Nat × Nat))) :
    (orders.foldl (round words) v).size = v.size := by
  induction orders generalizing v with
  | nil => rfl
  | cons order orders ih => rw [List.foldl_cons, ih, size_round]

theorem size_compress {h : Array UInt64} (words : h.size = 8) (piece : List UInt8) (length : Nat)
    (last : Bool) : (compress h piece length last).size = 8 := by
  simp only [compress, Array.size_zipWith, Array.size_extract, size_rounds, Array.size_append,
    words]
  rfl

/-- A hash is as long as it was asked to be. -/
theorem length_hash {size : Nat} (short : size ≤ 64) (message : List UInt8) :
    (hash size message).length = size := by
  have words (absorb : Array UInt64 → List UInt8 × Nat → Array UInt64)
      (keeps : ∀ h p, h.size = 8 → (absorb h p).size = 8) (pieces : List (List UInt8 × Nat))
      (h : Array UInt64) (eight : h.size = 8) : (pieces.foldl absorb h).size = 8 := by
    induction pieces generalizing h with
    | nil => exact eight
    | cons p pieces ih => exact ih _ (keeps h p eight)
  have bytes (h : Array UInt64) (eight : h.size = 8) :
      (h.toList.flatMap fun w => Bytes.littleEndian 8 w.toNat).length = 64 := by
    simp [List.length_flatMap, List.map_const', eight]
  unfold hash
  have keeps (h : Array UInt64) (p : List UInt8 × Nat) (length : Nat) (last : Bool)
      (eight : h.size = 8) : (compress h p.1 length last).size = 8 := size_compress eight _ _ _
  rw [List.length_take, bytes _ (words _ (fun h p => keeps h p _ _) _ _ (by simp [initial]))]
  exact Nat.min_eq_left short

end Crypto.Blake2b

namespace Crypto.Argon2

theorem length_hash {s : Setting} (short : s.size ≤ 64) (password salt associated : List UInt8) :
    (hash s password salt associated).length = s.size := by
  unfold hash longHash
  dsimp only
  rw [if_pos short]
  exact Blake2b.length_hash short _

end Crypto.Argon2

namespace Password

namespace Encoded

/-! ### Bytes in base64 -/

/-- The bytes as they stand in a stored hash. -/
def base64 (bytes : List UInt8) : List Char := Base64.encode Base64.standard bytes

theorem mem_letters {bytes : List UInt8} {c : Char} (h : c ∈ base64 bytes) :
    c ∈ Base64.standard.letters := Base64.mem_letters_of_mem_encode rfl h

theorem length_base64 (bytes : List UInt8) :
    (Utf8.encode (base64 bytes)).length = (4 * bytes.length + 2) / 3 := by
  have ascii : Base64.standard.letters.all (·.toNat < 0x80) = true := by decide +kernel
  have one (text : List Char) (letters : ∀ c ∈ text, c ∈ Base64.standard.letters) :
      (Utf8.encode text).length = text.length := by
    induction text with
    | nil => rfl
    | cons c text ih =>
      have below := List.all_eq_true.1 ascii c (letters c List.mem_cons_self)
      rw [Utf8.encode_cons, Utf8.encodeChar_of_lt (of_decide_eq_true below), List.length_append,
        ih fun d mem => letters d (List.mem_cons_of_mem _ mem), List.length_cons, Nat.add_comm]
      rfl
  rw [one _ fun c => mem_letters, base64, Base64.length_encode]

theorem bytes_base64 {limit : Nat} {data : List UInt8} (short : data.length ≤ limit) :
    bytes limit (base64 data) = .ok data := by
  have fits : ¬3 * ((Utf8.encode (base64 data)).length / 4) +
      3 * ((Utf8.encode (base64 data)).length % 4) / 4 > limit := by
    rw [length_base64]
    omega
  unfold bytes
  dsimp only
  rw [if_neg fits, base64, Base64.decode_encode Base64.distinct_standard]

theorem saltText_base64 {salt : List UInt8} (least : 3 ≤ salt.length) (most : salt.length ≤ 48) :
    saltText (base64 salt) = .ok (base64 salt) := by
  have plain : Base64.standard.letters.all isValueChar = true := by decide +kernel
  have none : (base64 salt).find? (fun c => !isValueChar c) = none :=
    List.find?_eq_none.2 fun c mem => by simp [List.all_eq_true.1 plain c (mem_letters mem)]
  have length := length_base64 salt
  unfold saltText allValueChars
  rw [if_neg (by omega), if_neg (by omega), none]
  rfl

theorem outputBytes_base64 {output : List UInt8} (least : 10 ≤ output.length)
    (most : output.length ≤ 64) : outputBytes (base64 output) = .ok output := by
  unfold outputBytes
  rw [bytes_base64 most]
  exact if_neg (Nat.not_lt.2 least)

/-! ### The text of a new hash -/

/-- The parameters of new hashes, by name. -/
def newParameters : List (String × Nat) :=
  [("m", defaultCost.memory), ("t", defaultCost.passes), ("p", defaultCost.lanes)]

/-- What such a text is read as. -/
def new (salt output : List UInt8) : Encoded :=
  ⟨"argon2id".toList, some 19, [(['m'], "19456".toList), (['t'], ['2']), (['p'], ['1'])],
    some (base64 salt), some output⟩

theorem toList_text (salt output : List UInt8) :
    (text "argon2id" 19 newParameters salt output).toList = ['$'].intercalate [[],
      "argon2id".toList, "v=19".toList, "m=19456,t=2,p=1".toList, base64 salt, base64 output] := by
  have parameters (write : String × Nat → String)
      (pair : ∀ p, write p = p.1 ++ "=" ++ toString p.2) :
      ",".intercalate (newParameters.map write) = "m=19456,t=2,p=1" := by
    rw [funext pair]
    decide +kernel
  have version : "v=" ++ toString 19 = "v=19" := by decide +kernel
  unfold text
  dsimp only
  rw [parameters _ fun _ => rfl, version]
  simp [String.join, List.intersperse, List.intercalate, base64]

theorem ofChars?_text {salt output : List UInt8} (least : 3 ≤ salt.length)
    (most : salt.length ≤ 48) (long : 10 ≤ output.length) (short : output.length ≤ 64) :
    ofChars? (text "argon2id" 19 newParameters salt output).toList = .ok (new salt output) := by
  have plain (bytes : List UInt8) : '$' ∉ base64 bytes := fun mem => by
    have letter := mem_letters mem
    revert letter
    decide
  -- No letter of base64 is a separator, so the text is cut where its fields were joined.
  have fields : (text "argon2id" 19 newParameters salt output).toList.splitOn '$' = [[],
      "argon2id".toList, "v=19".toList, "m=19456,t=2,p=1".toList, base64 salt,
      base64 output] := by
    rw [toList_text]
    refine List.splitOn_intercalate '$' ?_ (List.cons_ne_nil _ _)
    simp [plain]
  have named : name "argon2id".toList = .ok "argon2id".toList := by rfl
  have versioned (fields : List (List Char)) :
      takeVersion ("v=19".toList :: fields) = .ok (some 19, fields) := by rfl
  have parameters (fields : List (List Char)) :
      takeParameters ("m=19456,t=2,p=1".toList :: fields) =
        .ok ([(['m'], "19456".toList), (['t'], ['2']), (['p'], ['1'])], fields) := by rfl
  have salted : (some (base64 salt)).mapM saltText = .ok (some (base64 salt)) := by
    change some <$> saltText (base64 salt) = _
    rw [saltText_base64 least most]
    rfl
  have hashed : (some (base64 output)).mapM outputBytes = .ok (some output) := by
    change some <$> outputBytes (base64 output) = _
    rw [outputBytes_base64 long short]
    rfl
  unfold ofChars?
  rw [fields]
  refine bind_eq_ok_iff.2 ⟨_, named, ?_⟩
  refine bind_eq_ok_iff.2 ⟨_, versioned _, ?_⟩
  refine bind_eq_ok_iff.2 ⟨_, parameters _, ?_⟩
  refine bind_eq_ok_iff.2 ⟨_, salted, ?_⟩
  refine bind_eq_ok_iff.2 ⟨_, hashed, ?_⟩
  rfl

end Encoded

/-- A hash is recomputed from the text that was made of it. -/
theorem recompute_text (salt : List UInt8) (least : 8 ≤ salt.length) (most : salt.length ≤ 48)
    (password : String) (output : List UInt8) :
    recompute password (.new salt output) (Encoded.base64 salt) 32 = .ok (Crypto.Argon2.hash
      ⟨.hybrid, .second, defaultCost, 32⟩ (Utf8.ofString password) salt []) := by
  have salted : saltBytes (Encoded.base64 salt) = .ok salt := by
    unfold saltBytes
    rw [Encoded.bytes_base64 (by omega)]
    exact if_neg (by omega)
  unfold recompute
  refine bind_eq_ok_iff.2 ⟨⟨defaultCost, []⟩, by rfl, ?_⟩
  refine bind_eq_ok_iff.2 ⟨.hybrid, by rfl, ?_⟩
  refine bind_eq_ok_iff.2 ⟨.second, by rfl, ?_⟩
  exact bind_eq_ok_iff.2 ⟨_, salted, rfl⟩

/-- A password is accepted against a hash that was made of it, whatever the salt is. -/
theorem check_hash (salt : Salt) (password : String) :
    check password (hash salt password) = .ok () := by
  have exact := salt.exact
  have again := recompute_text salt.bytes (by omega) (by omega) password
  have size : (Crypto.Argon2.hash ⟨.hybrid, .second, defaultCost, 32⟩ (Utf8.ofString password)
      salt.bytes []).length = 32 := Crypto.Argon2.length_hash (by decide) _ _ _
  unfold check hash
  dsimp only
  generalize Crypto.Argon2.hash ⟨.hybrid, .second, defaultCost, 32⟩ (Utf8.ofString password)
    salt.bytes [] = output at size again ⊢
  have read : Encoded.ofChars? _ = .ok (.new salt.bytes output) :=
    Encoded.ofChars?_text (by omega) (by omega) (by omega) (by omega)
  refine bind_eq_ok_iff.2 ⟨_, mapError_eq_ok_iff.2 read, ?_⟩
  refine bind_eq_ok_iff.2 ⟨output, ?_, if_pos rfl⟩
  rw [size, again]
  rfl

end Password

end Teller
