import Mathlib.Data.List.TakeDrop
import Mathlib.Data.List.TakeWhile
import Teller.Proofs.Text.Base64
import Teller.Token.Maker

/-!
# Signed tokens as text

A signed token is three runs of letters with points between them. None of the letters is a point, so
a token is cut where its parts were joined, and its signature is found genuine.
-/

namespace Teller

namespace Token.Signed

/-- The letters of a signed token, and the point between its parts. -/
def tokenChars : List Char := '.' :: Base64.urlSafe.letters

theorem point_not_mem_segment (bytes : List UInt8) : '.' ∉ segment bytes := by
  intro h
  have none : '.' ∉ Base64.urlSafe.letters := by decide
  exact none (Base64.mem_letters_of_mem_encode rfl h)

theorem segment_subset (bytes : List UInt8) : segment bytes ⊆ tokenChars := fun _ h =>
  List.mem_cons_of_mem _ (Base64.mem_letters_of_mem_encode rfl h)

/-- What is joined at a point is cut there, if no other point follows. -/
theorem cutLast_append {message tail : List Char} (h : '.' ∉ tail) :
    cutLast (message ++ '.' :: tail) = some (message, tail) := by
  have letters : ∀ c ∈ tail.reverse, decide (c ≠ '.') = true := by
    intro c hc
    rw [List.mem_reverse] at hc
    exact decide_eq_true fun point => h (point ▸ hc)
  have text : (message ++ '.' :: tail).reverse = tail.reverse ++ '.' :: message.reverse := by simp
  rw [cutLast, text, List.span_eq_takeWhile_dropWhile, List.takeWhile_append_of_pos letters,
    List.dropWhile_append_of_pos letters]
  simp

theorem sign_subset (key : Key) (p : Payload) : sign key p ⊆ tokenChars := by
  unfold sign signature header
  simp only [List.append_subset, List.cons_subset]
  have point : '.' ∈ tokenChars := List.mem_cons_self
  exact ⟨⟨segment_subset _, point, segment_subset _⟩, point, segment_subset _⟩

/-- A signed token has at least its points. -/
theorem sign_ne (key : Key) (p : Payload) : String.ofList (sign key p) ≠ "" := by
  intro empty
  have none := congrArg String.toList empty
  rw [String.toList_ofList] at none
  simp [sign] at none

theorem algorithmOf?_header : algorithmOf? header = some Header.algorithm := by decide +kernel

/-- A token that was signed with a key is genuine for whoever has the key. -/
theorem authentic?_sign (key : Key) (p : Payload) :
    authentic? key (sign key p) = payloadOf? (segment (Utf8.encode p.toJson.chars)) := by
  have tail (message : List Char) : '.' ∉ signature key message := point_not_mem_segment _
  unfold authentic? sign
  simp only [cutLast_append (tail _), cutLast_append (point_not_mem_segment _), algorithmOf?_header,
    Option.bind_eq_bind, Option.bind_some, and_self, if_true]

end Token.Signed

end Teller
