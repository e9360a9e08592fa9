import Teller.Json.Record
import Teller.Proofs.Text.Utf8

/-!
# Reading what was written

A reader that is given the compact text of a value, with more text of a list or an object after it,
reads the value and leaves what comes after it. String literals and whole numbers are read so.
-/

namespace Teller.Json

namespace Reader

variable {α β : Type}

/-- Reads `x` at the front of a text and leaves the rest. -/
def Yields (r : Reader α) (input : List UInt8) (x : α) (rest : List UInt8) : Prop :=
  r.run.run input = (.ok x, rest)

variable {input mid rest : List UInt8} {x : α} {y : β} {r : Reader α} {f : α → Reader β}

theorem yields_pure (x : α) (input : List UInt8) : (pure x : Reader α).Yields input x input := rfl

/-- What one reader leaves, the next one reads. -/
theorem Yields.bind (h : r.Yields input x mid) (h' : (f x).Yields mid y rest) :
    (r >>= f).Yields input y rest := by
  unfold Yields at *
  rw [ExceptT.run_bind, StateT.run_bind, h]
  exact h'

theorem Yields.discard (h : r.Yields input x rest) :
    (discard r : Reader PUnit).Yields input () rest :=
  h.bind (yields_pure () rest)

theorem yields_get (input : List UInt8) : (get : Reader (List UInt8)).Yields input input input := rfl

theorem yields_advance (b : UInt8) (rest : List UInt8) : advance.Yields (b :: rest) () rest := rfl

theorem yields_peek? (input : List UInt8) : peek?.Yields input input.head? input := rfl

theorem yields_next? (b : UInt8) (rest : List UInt8) : next?.Yields (b :: rest) (some b) rest := rfl

theorem yields_peekPastBlanks? {b : UInt8} (h : isBlank b = false) (rest : List UInt8) :
    peekPastBlanks?.Yields (b :: rest) (some b) (b :: rest) := by
  have stays : (b :: rest).dropWhile isBlank = b :: rest := List.dropWhile_cons_of_neg (by simp [h])
  change (Except.ok ((b :: rest).dropWhile isBlank).head?, (b :: rest).dropWhile isBlank) = _
  rw [stays]
  rfl

theorem yields_start {b : UInt8} (h : isBlank b = false) (rest : List UInt8) :
    start.Yields (b :: rest) b (b :: rest) :=
  (yields_peekPastBlanks? h rest).bind (yields_pure b _)

theorem Yields.tryCatch (h : r.Yields input x rest) (handle : Fault → Reader α) :
    (tryCatch r handle : Reader α).Yields input x rest := by
  unfold Yields at *
  rw [ExceptT.run_tryCatch, StateT.run_bind, h]
  rfl

theorem Yields.inside (place : Place) (h : r.Yields input x rest) :
    (inside place r).Yields input x rest := h.tryCatch _

/-! ### String literals -/

/-- A byte that stands for itself in a string literal. -/
structure IsPlain (b : UInt8) : Prop where
  visible : ¬b < 32
  quote : b ≠ byte '"'
  backslash : b ≠ byte '\\'

theorem toNat_byte {c : Char} (ascii : c.toNat < 0x80) : (byte c).toNat = c.toNat :=
  Utf8.toNat_toUInt8 (by omega)

theorem encodeChar_eq_byte {c : Char} (ascii : c.toNat < 0x80) : Utf8.encodeChar c = [byte c] :=
  Utf8.encodeChar_of_lt ascii

/-- Bytes of a character that needs no escape stand for themselves, also beyond ASCII. -/
theorem isPlain_of_mem_encodeChar {c : Char} (visible : 0x20 ≤ c.toNat) (quote : c ≠ '"')
    (backslash : c ≠ '\\') {b : UInt8} (h : b ∈ Utf8.encodeChar c) : IsPlain b := by
  have differs {d : Char} (hd : d.toNat < 0x80) (ne : c ≠ d) : b ≠ byte d := by
    rintro rfl
    by_cases ascii : c.toNat < 0x80
    · rw [encodeChar_eq_byte ascii, List.mem_singleton] at h
      have same : d.toNat = c.toNat := by rw [← toNat_byte hd, h, toNat_byte ascii]
      exact ne (Char.toNat_inj.1 same.symm)
    · have beyond := Utf8.le_of_mem_encodeChar (Nat.not_lt.1 ascii) h
      rw [toNat_byte hd] at beyond
      omega
  refine ⟨fun below => ?_, differs (by decide) quote, differs (by decide) backslash⟩
  rw [UInt8.lt_iff_toNat_lt] at below
  change b.toNat < 32 at below
  by_cases ascii : c.toNat < 0x80
  · rw [encodeChar_eq_byte ascii, List.mem_singleton] at h
    rw [h, toNat_byte ascii] at below
    omega
  · have beyond := Utf8.le_of_mem_encodeChar (Nat.not_lt.1 ascii) h
    omega

/-- A character is written as a short escape, as a control's number, or as itself. -/
theorem escape_cases (c : Char) :
    (∃ letter, (letter, c) ∈ shortEscapes ∧ escape c = ['\\', letter]) ∨
      (c.toNat < 0x20 ∧
        escape c = ['\\', 'u', '0', '0', hexDigit (c.toNat / 16), hexDigit (c.toNat % 16)]) ∨
      (0x20 ≤ c.toNat ∧ c ≠ '"' ∧ c ≠ '\\' ∧ escape c = [c]) := by
  unfold escape
  split
  · next quoted =>
    left
    rcases quoted with rfl | rfl
    · exact ⟨'"', by decide, rfl⟩
    · exact ⟨'\\', by decide, rfl⟩
  · next plain =>
    rw [not_or] at plain
    split
    · next control =>
      have same {d : Char} (h : c.toNat = d.toNat) : c = d := Char.toNat_inj.1 h
      split
      · next h => exact .inl ⟨'b', by rw [same (d := '\x08') h]; decide, rfl⟩
      · next h => exact .inl ⟨'t', by rw [same (d := '\t') h]; decide, rfl⟩
      · next h => exact .inl ⟨'n', by rw [same (d := '\n') h]; decide, rfl⟩
      · next h => exact .inl ⟨'f', by rw [same (d := '\x0c') h]; decide, rfl⟩
      · next h => exact .inl ⟨'r', by rw [same (d := '\r') h]; decide, rfl⟩
      · exact .inr (.inl ⟨control, rfl⟩)
    · next visible => exact .inr (.inr ⟨Nat.not_lt.1 visible, plain.1, plain.2, rfl⟩)

theorem hexValue?_hexDigit {value : Nat} (small : value < 16) :
    hexValue? (byte (hexDigit value)) = some value := by
  have all : ∀ value < 16, hexValue? (byte (hexDigit value)) = some value := by decide
  exact all value small

/-- Four hexadecimal digits are read as the unit they spell. -/
theorem yields_hexUnit {a b c d : UInt8} {values : List Nat}
    (h : [a, b, c, d].mapM hexValue? = some values) (rest : List UInt8) :
    hexUnit.Yields (a :: b :: c :: d :: rest) (values.foldl (fun n v => n * 16 + v) 0) rest := by
  have dropped : (modify (·.drop 4) : Reader PUnit).Yields (a :: b :: c :: d :: rest) () rest := rfl
  have taken : ((a :: b :: c :: d :: rest).take 4).mapM hexValue? = some values := h
  refine (yields_get _).bind (dropped.bind ?_)
  rw [if_neg (by simp), taken]
  exact yields_pure _ rest

/-- A short escape is read as its character. -/
theorem yields_escaped_short {letter c : Char} (pair : (letter, c) ∈ shortEscapes)
    (rest : List UInt8) : escaped.Yields (byte letter :: rest) [byte c] rest := by
  simp only [shortEscapes, List.mem_cons, List.not_mem_nil, or_false, Prod.mk.injEq] at pair
  rcases pair with ⟨rfl, rfl⟩ | ⟨rfl, rfl⟩ | ⟨rfl, rfl⟩ | ⟨rfl, rfl⟩ | ⟨rfl, rfl⟩ | ⟨rfl, rfl⟩ |
    ⟨rfl, rfl⟩ | ⟨rfl, rfl⟩
  all_goals rfl

/-- A control character is read from the escape it was written as. -/
theorem yields_escaped_control {c : Char} (control : c.toNat < 0x20) (rest : List UInt8) :
    escaped.Yields (byte 'u' :: byte '0' :: byte '0' :: byte (hexDigit (c.toNat / 16)) ::
      byte (hexDigit (c.toNat % 16)) :: rest) [byte c] rest := by
  have digits : [byte '0', byte '0', byte (hexDigit (c.toNat / 16)),
      byte (hexDigit (c.toNat % 16))].mapM hexValue? =
        some [0, 0, c.toNat / 16, c.toNat % 16] := by
    simp only [List.mapM_cons, List.mapM_nil, hexValue?_hexDigit (show c.toNat / 16 < 16 by omega),
      hexValue?_hexDigit (show c.toNat % 16 < 16 by omega)]
    rfl
  have value : [0, 0, c.toNat / 16, c.toNat % 16].foldl (fun n v => n * 16 + v) 0 = c.toNat := by
    simp only [List.foldl_cons, List.foldl_nil]
    omega
  have unit := yields_hexUnit digits rest
  rw [value] at unit
  have read : unicodeEscape.Yields (byte '0' :: byte '0' :: byte (hexDigit (c.toNat / 16)) ::
      byte (hexDigit (c.toNat % 16)) :: rest) c rest := by
    refine unit.bind ?_
    rw [if_neg (by simp [isLowSurrogate]; omega), if_neg (by simp [isHighSurrogate]; omega),
      Char.ofNat_toNat]
    exact yields_pure c rest
  refine (yields_next? _ _).bind ?_
  dsimp only
  rw [if_pos rfl]
  refine read.bind ?_
  rw [encodeChar_eq_byte (by omega)]
  exact yields_pure _ rest

theorem yields_stringBytes_end (fuel : Nat) (rest : List UInt8) :
    (stringBytes (fuel + 1)).Yields (byte '"' :: rest) [] rest := by
  refine (yields_next? _ _).bind ?_
  dsimp only
  rw [if_pos rfl]
  exact yields_pure _ rest

theorem Yields.plain {b : UInt8} {fuel : Nat} {bytes : List UInt8} (plain : IsPlain b)
    (h : (stringBytes fuel).Yields input bytes rest) :
    (stringBytes (fuel + 1)).Yields (b :: input) (b :: bytes) rest := by
  refine (yields_next? _ _).bind ?_
  dsimp only
  rw [if_neg plain.quote, if_neg plain.backslash, if_neg plain.visible]
  exact h.bind (yields_pure _ rest)

/-- A run of plain bytes is read as it stands. -/
theorem Yields.plains {front : List UInt8} {fuel : Nat} {bytes : List UInt8}
    (plain : ∀ b ∈ front, IsPlain b) (h : (stringBytes fuel).Yields input bytes rest) :
    (stringBytes (fuel + front.length)).Yields (front ++ input) (front ++ bytes) rest := by
  induction front with
  | nil => exact h
  | cons b front ih =>
    exact (ih fun c hc => plain c (List.mem_cons_of_mem _ hc)).plain (plain b List.mem_cons_self)

/-- An escape is read as its bytes, and reading goes on after it. -/
theorem Yields.escape {fuel : Nat} (front : List UInt8) {bytes tail : List UInt8}
    (h : escaped.Yields (front ++ input) bytes input)
    (h' : (stringBytes fuel).Yields input tail rest) :
    (stringBytes (fuel + 1)).Yields (byte '\\' :: (front ++ input)) (bytes ++ tail) rest := by
  refine (yields_next? _ _).bind ?_
  dsimp only
  rw [if_neg (by decide), if_pos rfl]
  exact h.bind (h'.bind (yields_pure _ rest))

theorem ascii_of_mem_shortEscapes {pair : Char × Char} (h : pair ∈ shortEscapes) :
    pair.1.toNat < 0x80 ∧ pair.2.toNat < 0x80 := by
  have all : ∀ pair ∈ shortEscapes, pair.1.toNat < 0x80 ∧ pair.2.toNat < 0x80 := by decide
  exact all pair h

/-- A character of a string literal is read, with a unit of fuel for each of its bytes. -/
theorem Yields.character {fuel : Nat} {bytes : List UInt8} (c : Char)
    (h : ∀ less, fuel ≤ less → (stringBytes less).Yields input bytes rest) {more : Nat}
    (enough : fuel + (Utf8.encode (Json.escape c)).length ≤ more) :
    (stringBytes more).Yields (Utf8.encode (Json.escape c) ++ input)
      (Utf8.encodeChar c ++ bytes) rest := by
  have backslash : Utf8.encodeChar '\\' = [byte '\\'] := encodeChar_eq_byte (by decide)
  have some : 0 < (Utf8.encode (Json.escape c)).length → ∃ less, more = less + 1 ∧ fuel ≤ less :=
    fun pos => ⟨more - 1, by omega, by omega⟩
  -- An escape costs one unit of fuel for many bytes, a plain character one for each of its own.
  rcases escape_cases c with ⟨letter, pair, written⟩ | ⟨control, written⟩ |
    ⟨visible, quote, backslash, written⟩
  · obtain ⟨hletter, hc⟩ := ascii_of_mem_shortEscapes pair
    rw [written, Utf8.encode_cons, backslash] at some ⊢
    obtain ⟨less, rfl, le⟩ := some (by simp)
    rw [encodeChar_eq_byte hc, Utf8.encode_cons, encodeChar_eq_byte hletter]
    exact (yields_escaped_short pair input).escape [byte letter] (h less le)
  · rw [written, Utf8.encode_cons, backslash] at some ⊢
    obtain ⟨less, rfl, le⟩ := some (by simp)
    have digit {value : Nat} (small : value < 16) :
        Utf8.encodeChar (hexDigit value) = [byte (hexDigit value)] := by
      have all : ∀ value < 16, (hexDigit value).toNat < 0x80 := by decide
      exact encodeChar_eq_byte (all value small)
    have number : Utf8.encode ['u', '0', '0', hexDigit (c.toNat / 16), hexDigit (c.toNat % 16)] =
        [byte 'u', byte '0', byte '0', byte (hexDigit (c.toNat / 16)),
          byte (hexDigit (c.toNat % 16))] := by
      simp only [Utf8.encode_cons, Utf8.encode_nil, digit (show c.toNat / 16 < 16 by omega),
        digit (show c.toNat % 16 < 16 by omega)]
      rfl
    rw [encodeChar_eq_byte (by omega), number]
    exact (yields_escaped_control control input).escape
      [_, _, _, _, _] (h less le)
  · have itself : Utf8.encode (Json.escape c) = Utf8.encodeChar c := by simp [written]
    rw [itself] at enough ⊢
    obtain ⟨less, rfl⟩ := Nat.exists_eq_add_of_le' (Nat.le_of_add_left_le enough)
    exact .plains (fun b => isPlain_of_mem_encodeChar visible quote backslash)
      (h less (by omega))

/-- A string literal after its opening quote gives the bytes of its text. -/
theorem yields_stringBytes (text : List Char) (rest : List UInt8) {fuel : Nat}
    (enough : (Utf8.encode (text.flatMap Json.escape)).length < fuel) :
    (stringBytes fuel).Yields (Utf8.encode (text.flatMap Json.escape) ++ byte '"' :: rest)
      (Utf8.encode text) rest := by
  induction text generalizing fuel with
  | nil =>
    obtain ⟨fuel, rfl⟩ := Nat.exists_eq_add_one.2 (Nat.zero_lt_of_lt enough)
    exact yields_stringBytes_end fuel rest
  | cons c text ih =>
    rw [List.flatMap_cons, Utf8.encode_append, List.length_append] at enough
    rw [List.flatMap_cons, Utf8.encode_append, List.append_assoc, Utf8.encode_cons]
    refine .character c (fun less hless => ih (Nat.lt_of_succ_le hless)) ?_
    omega

/-- A string is read from its escaped form, up to the quote that ends it. -/
theorem yields_stringRest (text : List Char) (rest : List UInt8) :
    stringRest.Yields (Utf8.encode (text.flatMap Json.escape) ++ byte '"' :: rest)
      (String.ofList text) rest := by
  refine (yields_get _).bind ((yields_stringBytes text rest ?_).bind ?_)
  · rw [List.length_append, List.length_cons]
    omega
  · rw [Utf8.toString?_encode]
    exact yields_pure _ rest

theorem encode_literal (text : List Char) : Utf8.encode (literal text) =
    byte '"' :: (Utf8.encode (text.flatMap Json.escape) ++ [byte '"']) := by
  have quote : Utf8.encodeChar '"' = [byte '"'] := encodeChar_eq_byte (by decide)
  simp [literal, quote]

/-! ### Skipping string literals -/

theorem yields_skipString_end (fuel : Nat) (rest : List UInt8) :
    (skipString (fuel + 1)).Yields (byte '"' :: rest) () rest := by
  refine (yields_peek? _).bind ?_
  dsimp only [List.head?_cons]
  rw [if_neg (by decide)]
  refine (yields_advance _ _).bind ?_
  rw [if_pos rfl]
  exact yields_pure _ rest

theorem Yields.skip_plain {b : UInt8} {fuel : Nat} (plain : IsPlain b)
    (h : (skipString fuel).Yields input () rest) :
    (skipString (fuel + 1)).Yields (b :: input) () rest := by
  refine (yields_peek? _).bind ?_
  dsimp only [List.head?_cons]
  rw [if_neg plain.visible]
  refine (yields_advance _ _).bind ?_
  rw [if_neg plain.quote, if_neg plain.backslash]
  exact h

theorem Yields.skip_plains {front : List UInt8} {fuel : Nat} (plain : ∀ b ∈ front, IsPlain b)
    (h : (skipString fuel).Yields input () rest) :
    (skipString (fuel + front.length)).Yields (front ++ input) () rest := by
  induction front with
  | nil => exact h
  | cons b front ih =>
    exact (ih fun c hc => plain c (List.mem_cons_of_mem _ hc)).skip_plain
      (plain b List.mem_cons_self)

/-! ### Values -/

/-- What may follow a value inside a list or an object, or at the end of a text. -/
def Stops (rest : List UInt8) : Prop :=
  ∀ b ∈ rest.head?, b = byte ',' ∨ b = byte ']' ∨ b = byte '\x7d'

/-- Reads the compact text of a value as `x`. -/
def Reads (r : Reader α) (v : Value) (x : α) : Prop :=
  ∀ rest, Stops rest → r.Yields (Utf8.encode v.chars ++ rest) x rest

theorem Reads.map {v : Value} (h : r.Reads v x) (g : α → β) :
    (r >>= fun a => pure (g a)).Reads v (g x) := fun rest stops =>
  (h rest stops).bind (yields_pure _ rest)

/-- A whole text that is the compact text of a value. -/
theorem Reads.all {v : Value} (h : r.Reads v x) : r.all (Utf8.encode v.chars) = .ok x := by
  have read := h [] nofun
  rw [List.append_nil] at read
  have finished : finish.Yields [] () [] := rfl
  exact congrArg Prod.fst (read.bind (finished.bind (yields_pure x [])))

theorem reads_text (s : String) : text.Reads (.text s) s := by
  intro rest _
  rw [Value.chars, encode_literal, List.cons_append, List.append_assoc]
  refine (yields_start (by decide) _).bind ?_
  rw [if_pos rfl]
  refine (yields_advance _ _).bind ?_
  have read := yields_stringRest s.toList rest
  rw [String.ofList_toList] at read
  exact read

/-- Neither a list nor an object is a scalar. -/
theorem Yields.skipValue {first : UInt8} (blank : isBlank first = false) (list : first ≠ byte '[')
    (object : first ≠ byte '\x7b') (h : (skipScalar first).Yields (first :: input) () rest) :
    skipValue.Yields (first :: input) () rest := by
  refine (yields_get _).bind ?_
  rw [skipIn]
  refine (yields_start blank _).bind ?_
  rw [if_neg list, if_neg object]
  refine h.bind ?_
  rw [skipRest]
  exact yields_pure () rest

/-- A text without escapes is skipped. -/
theorem reads_skipValue_text {s : String}
    (plain : ∀ c ∈ s.toList, 0x20 ≤ c.toNat ∧ c ≠ '"' ∧ c ≠ '\\') :
    skipValue.Reads (.text s) () := by
  intro rest _
  have bytes : ∀ b ∈ Utf8.encode (s.toList.flatMap Json.escape), IsPlain b := by
    intro b hb
    obtain ⟨d, hd, hb⟩ := List.mem_flatMap.1 hb
    obtain ⟨c, hc, hd⟩ := List.mem_flatMap.1 hd
    obtain ⟨visible, quote, backslash⟩ := plain c hc
    have itself : Json.escape c = [c] := by
      rw [Json.escape, if_neg (not_or.2 ⟨quote, backslash⟩), if_neg (Nat.not_lt.2 visible)]
    rw [itself, List.mem_singleton] at hd
    exact isPlain_of_mem_encodeChar visible quote backslash (hd ▸ hb)
  rw [Value.chars, encode_literal, List.cons_append, List.append_assoc]
  refine .skipValue (by decide) (by decide) (by decide) ?_
  unfold skipScalar
  rw [if_neg (by decide), if_neg (by decide), if_neg (by decide), if_neg (by decide),
    if_neg (by decide), if_pos rfl]
  refine (yields_advance _ _).bind ((yields_get _).bind ?_)
  have skipped := (yields_skipString_end (rest.length + 1) rest).skip_plains bytes
  have fuel : rest.length + 1 + 1 + (Utf8.encode (s.toList.flatMap Json.escape)).length =
      (Utf8.encode (s.toList.flatMap Json.escape) ++ ([byte '"'] ++ rest)).length + 1 := by
    simp only [List.length_append, List.length_singleton]
    omega
  rw [fuel] at skipped
  exact skipped

end Reader

end Teller.Json
