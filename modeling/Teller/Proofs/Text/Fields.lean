import Mathlib.Data.List.TakeDrop
import Mathlib.Data.List.TakeWhile
import Teller.Text.Blank

/-!
# Fields of a text

A text falls into fields with blanks between them. The first two are found wherever they stand:
behind a margin of blanks, and with a gap of blanks between them.
-/

namespace Teller.Text

/-- Blanks, a word and what follows it: the word is the first field. -/
theorem field_append (gap word rest : List Char) (blank : ∀ c ∈ gap, isBlank c) (ne : word ≠ [])
    (unbroken : ∀ c ∈ word, isBlank c = false) (stop : ∀ c ∈ rest.head?, isBlank c) :
    field (gap ++ (word ++ rest)) = (word, rest) := by
  have start : (word ++ rest).dropWhile isBlank = word ++ rest := by
    cases word with
    | nil => exact absurd rfl ne
    | cons c word => simp [unbroken c List.mem_cons_self]
  have all : ∀ c ∈ word, (!isBlank c) = true := fun c hc => by simp [unbroken c hc]
  rw [field, List.dropWhile_append_of_pos blank, start, List.span_eq_takeWhile_dropWhile,
    List.takeWhile_append_of_pos all, List.dropWhile_append_of_pos all]
  cases rest with
  | nil => simp
  | cons c rest => simp [stop c rfl]

/-- Every text begins with blanks, a field and a blank or the end, of which the blanks and the field
may be empty. -/
theorem field_split (text : List Char) : ∃ gap word rest, field text = (word, rest) ∧
    text = gap ++ (word ++ rest) ∧ (∀ c ∈ gap, isBlank c) ∧ (∀ c ∈ word, isBlank c = false) ∧
    ∀ c ∈ rest.head?, isBlank c := by
  refine ⟨text.takeWhile isBlank, _, _, List.span_eq_takeWhile_dropWhile .., ?_,
    fun c hc => List.mem_takeWhile_imp hc, fun c hc => ?_, fun c hc => ?_⟩
  · rw [List.takeWhile_append_dropWhile, List.takeWhile_append_dropWhile]
  · simpa using List.mem_takeWhile_imp hc
  · have stopped := List.head?_dropWhile_not (!isBlank ·) (text.dropWhile isBlank)
    rw [Option.mem_def.1 hc] at stopped
    simpa using stopped

/-- The first two fields of a text. Blanks stand between them, maybe before the first, and after the
second unless the text ends there. -/
inductive TwoFields : List Char → List Char → List Char → Prop where
  | mk {margin first gap second rest : List Char} (before : ∀ c ∈ margin, isBlank c)
      (first_ne : first ≠ []) (first_unbroken : ∀ c ∈ first, isBlank c = false)
      (gap_ne : gap ≠ []) (between : ∀ c ∈ gap, isBlank c)
      (second_ne : second ≠ []) (second_unbroken : ∀ c ∈ second, isBlank c = false)
      (stop : ∀ c ∈ rest.head?, isBlank c) :
      TwoFields (margin ++ (first ++ (gap ++ (second ++ rest)))) first second

/-- Two words with a gap between them are two fields. -/
theorem twoFields_append {first gap second : List Char} (ne : first ≠ [])
    (unbroken : ∀ c ∈ first, isBlank c = false) (apart : gap ≠ []) (blank : ∀ c ∈ gap, isBlank c)
    (ne' : second ≠ []) (unbroken' : ∀ c ∈ second, isBlank c = false) :
    TwoFields (first ++ (gap ++ second)) first second := by
  have fields : TwoFields ([] ++ (first ++ (gap ++ (second ++ [])))) first second :=
    .mk (by simp) ne unbroken apart blank ne' unbroken' (by simp)
  rwa [List.nil_append, List.append_nil] at fields

theorem firstTwoFields?_eq_some_iff {text first second : List Char} :
    firstTwoFields? text = some (first, second) ↔ TwoFields text first second := by
  constructor
  · intro h
    obtain ⟨margin, word, rest, found, rfl, before, unbroken, stop⟩ := field_split text
    obtain ⟨gap, word', rest', found', rfl, between, unbroken', stop'⟩ := field_split rest
    simp only [firstTwoFields?, found, found', List.isEmpty_iff, Option.ite_none_left_eq_some,
      not_or, Option.some.injEq, Prod.mk.injEq] at h
    obtain ⟨⟨ne, ne'⟩, rfl, rfl⟩ := h
    refine .mk before ne unbroken ?_ between ne' unbroken' stop'
    -- Without a gap the first field would go on in the second one.
    rintro rfl
    obtain ⟨c, word', rfl⟩ := List.exists_cons_of_ne_nil ne'
    have blank : isBlank c := stop c rfl
    rw [unbroken' c List.mem_cons_self] at blank
    cases blank
  · intro h
    cases h with
    | @mk margin first gap second rest before ne unbroken gap_ne between ne' unbroken' stop =>
      have blank : ∀ c ∈ (gap ++ (second ++ rest)).head?, isBlank c := by
        obtain ⟨c, gap, rfl⟩ := List.exists_cons_of_ne_nil gap_ne
        simpa using between c List.mem_cons_self
      rw [firstTwoFields?, field_append margin first _ before ne unbroken blank]
      simp [field_append gap second rest between ne' unbroken' stop, ne, ne']

end Teller.Text
