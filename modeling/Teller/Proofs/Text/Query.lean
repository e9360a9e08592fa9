import Mathlib.Data.List.TakeDrop
import Mathlib.Data.List.TakeWhile
import Teller.Proofs.Text.Utf8
import Teller.Text.Percent

/-!
# Queries there and back

Names and values in which no letter has a meaning of its own are written next to each other and read
back as they are.
-/

namespace Teller.Text.Percent

theorem decodeBytes_of_not_mem {bytes : List UInt8} (none : percent ∉ bytes) :
    decodeBytes bytes = bytes := by
  fun_induction decodeBytes bytes with
  | case1 hi lo rest => exact absurd List.mem_cons_self none
  | case2 hi lo rest => exact absurd List.mem_cons_self none
  | case3 b hi lo rest other ih => rw [ih fun mem => none (List.mem_cons_of_mem _ mem)]
  | case4 bytes => rfl

/-- A text stands for itself. -/
theorem readable_encode (text : List Char) : readable (Utf8.encode text) = text := by
  induction text with
  | nil => simp [readable]
  | cons c text ih =>
    have read := Utf8.decodeChar_encodeChar c (Utf8.encode text)
    rw [Utf8.encode_cons]
    cases written : Utf8.encodeChar c ++ Utf8.encode text with
    | nil => simp [Utf8.encodeChar_ne_nil] at written
    | cons b tail =>
      rw [written] at read
      rw [readable]
      split
      · next h =>
        rw [read] at h
        cases h
        rw [ih]
      · next h =>
        rw [read] at h
        cases h

theorem percent_not_mem_encode {text : List Char} (none : '%' ∉ text) :
    percent ∉ Utf8.encode text := by
  intro mem
  obtain ⟨c, hc, mem⟩ := List.mem_flatMap.1 mem
  by_cases ascii : c.toNat < 0x80
  · rw [Utf8.encodeChar_of_lt ascii, List.mem_singleton] at mem
    have same : '%'.toNat = c.toNat := by
      rw [← Utf8.toNat_toUInt8 (n := c.toNat) (by omega), ← mem]
      rfl
    exact none (Char.toNat_inj.1 same ▸ hc)
  · exact absurd (Utf8.le_of_mem_encodeChar (Nat.not_lt.1 ascii) mem) (by decide)

/-- A text in which no letter has a meaning of its own. -/
def IsLiteral (text : List Char) : Prop := ∀ c ∈ text, c ∉ ['%', '+', '&', '=']

theorem formPart_of_isLiteral {text : List Char} (literal : IsLiteral text) :
    formPart text = String.ofList text := by
  have spaces : (text.map fun c => if c = '+' then ' ' else c) = text :=
    (List.map_congr_left fun c hc => if_neg fun plus => literal c hc (by simp [plus])).trans
      (List.map_id _)
  have none : '%' ∉ text := fun mem => literal _ mem List.mem_cons_self
  rw [formPart, spaces, decodeBytes_of_not_mem (percent_not_mem_encode none), readable_encode]

/-- The text of names and values. -/
def written (pairs : List (List Char × List Char)) : String :=
  String.ofList (['&'].intercalate (pairs.map fun pair => pair.1 ++ '=' :: pair.2))

theorem formPairs_written {pairs : List (List Char × List Char)} (ne : pairs ≠ [])
    (literal : ∀ pair ∈ pairs, IsLiteral pair.1 ∧ IsLiteral pair.2) :
    formPairs (written pairs) =
      pairs.map fun pair => (String.ofList pair.1, String.ofList pair.2) := by
  have pieces : (written pairs).toList.splitOn '&' =
      pairs.map fun pair => pair.1 ++ '=' :: pair.2 := by
    rw [written, String.toList_ofList]
    refine List.splitOn_intercalate _ (fun piece mem amp => ?_) (by simpa using ne)
    obtain ⟨pair, there, rfl⟩ := List.mem_map.1 mem
    obtain ⟨first, second⟩ := literal pair there
    simp only [List.mem_append, List.mem_cons] at amp
    rcases amp with amp | amp | amp
    · exact first _ amp (by decide)
    · cases amp
    · exact second _ amp (by decide)
  have full : ((pairs.map fun pair => pair.1 ++ '=' :: pair.2).filter (· ≠ [])) =
      pairs.map fun pair => pair.1 ++ '=' :: pair.2 :=
    List.filter_eq_self.2 fun piece mem => by
      obtain ⟨pair, -, rfl⟩ := List.mem_map.1 mem
      simp
  rw [formPairs, pieces, full, List.map_map]
  refine List.map_congr_left fun pair there => ?_
  obtain ⟨first, second⟩ := literal pair there
  have name : ∀ c ∈ pair.1, decide (c ≠ '=') = true :=
    fun c hc => decide_eq_true fun same => first c hc (by simp [same])
  have stop : ('=' :: pair.2).takeWhile (· ≠ '=') = [] ∧
      ('=' :: pair.2).dropWhile (· ≠ '=') = '=' :: pair.2 := by simp
  simp only [Function.comp_apply, List.span_eq_takeWhile_dropWhile,
    List.takeWhile_append_of_pos name, List.dropWhile_append_of_pos name, stop, List.append_nil,
    List.drop_one, List.tail_cons, formPart_of_isLiteral first, formPart_of_isLiteral second]

end Teller.Text.Percent
