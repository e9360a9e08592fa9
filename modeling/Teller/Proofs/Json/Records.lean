import Teller.Json.Record
import Teller.Proofs.Json.Reading

/-!
# Records there and back

The compact text of an object is read member by member. A member whose name has a slot fills it, and
any other is skipped; what comes after a member stops its value.
-/

namespace Teller.Json

namespace Reader

variable {σ α : Type}

/-! ### Members as bytes -/

/-- The bytes of a member: its name, a colon and its value. -/
def memberBytes (name : String) (v : Value) : List UInt8 :=
  Utf8.encode (literal name.toList) ++ byte ':' :: Utf8.encode v.chars

/-- The members of an object, a comma before each but the first. -/
def membersBytes : Bool → List (String × Value) → List UInt8
  | _, [] => []
  | isFirst, (name, v) :: rest =>
    (if isFirst then [] else [byte ',']) ++ memberBytes name v ++ membersBytes false rest

theorem encode_member (name : String) (v : Value) :
    Utf8.encode (literal name.toList ++ ':' :: v.chars) = memberBytes name v := by
  have colon : Utf8.encodeChar ':' = [byte ':'] := encodeChar_eq_byte (by decide)
  rw [Utf8.encode_append, Utf8.encode_cons, colon]
  rfl

theorem encode_commas (ms : List (String × Value)) :
    Utf8.encode (commas (memberTexts ms)) = membersBytes true ms := by
  have comma : Utf8.encodeChar ',' = [byte ','] := encodeChar_eq_byte (by decide)
  have later (name : String) (v : Value) (ms : List (String × Value)) :
      membersBytes true ((name, v) :: ms) = memberBytes name v ++ membersBytes false ms := rfl
  induction ms with
  | nil => rfl
  | cons m ms ih =>
    obtain ⟨name, v⟩ := m
    rw [later]
    cases ms with
    | nil =>
      rw [memberTexts, memberTexts, commas, encode_member, membersBytes, List.append_nil]
    | cons n ms =>
      obtain ⟨name', v'⟩ := n
      rw [later] at ih
      simp only [memberTexts, commas] at ih ⊢
      rw [Utf8.encode_append, encode_member, Utf8.encode_cons, comma, ih]
      rfl

theorem encode_object (ms : List (String × Value)) :
    Utf8.encode (Value.object ms).chars =
      byte '\x7b' :: (membersBytes true ms ++ [byte '\x7d']) := by
  have left : Utf8.encodeChar '\x7b' = [byte '\x7b'] := encodeChar_eq_byte (by decide)
  have right : Utf8.encodeChar '\x7d' = [byte '\x7d'] := encodeChar_eq_byte (by decide)
  rw [Value.chars, List.cons_append, Utf8.encode_cons, Utf8.encode_append, Utf8.encode_cons, left,
    right, encode_commas]
  rfl

theorem length_le_membersBytes (isFirst : Bool) (ms : List (String × Value)) :
    ms.length ≤ (membersBytes isFirst ms).length := by
  induction ms generalizing isFirst with
  | nil => exact Nat.zero_le _
  | cons m ms ih =>
    have := ih false
    simp only [membersBytes, memberBytes, List.length_append, List.length_cons]
    omega

theorem stops_membersBytes (ms : List (String × Value)) (rest : List UInt8) :
    Stops (membersBytes false ms ++ byte '\x7d' :: rest) := by
  intro b hb
  cases ms with
  | nil => exact .inr (.inr (Option.some.inj hb).symm)
  | cons m ms => exact .inl (Option.some.inj hb).symm

/-! ### Reading members -/

theorem yields_moreMembers_end (isFirst : Bool) (rest : List UInt8) :
    (moreMembers isFirst).Yields (byte '\x7d' :: rest) false (byte '\x7d' :: rest) := by
  refine (yields_peekPastBlanks? (by decide) _).bind ?_
  dsimp only
  rw [if_pos rfl]
  exact yields_pure _ _

/-- Before a member stands a comma, unless it is the first. -/
theorem yields_moreMembers (isFirst : Bool) (name : String) (v : Value) (rest : List UInt8) :
    (moreMembers isFirst).Yields
      ((if isFirst then [] else [byte ',']) ++ (memberBytes name v ++ rest)) true
      (memberBytes name v ++ rest) := by
  have quote : isBlank (byte '"') = false := by decide
  obtain ⟨text, front⟩ : ∃ text, memberBytes name v ++ rest = byte '"' :: text :=
    ⟨_, by rw [memberBytes, encode_literal]; rfl⟩
  rw [front]
  cases isFirst with
  | true =>
    refine (yields_peekPastBlanks? quote text).bind ?_
    exact (yields_peekPastBlanks? quote text).bind (yields_pure _ _)
  | false =>
    refine (yields_peekPastBlanks? (by decide) _).bind ((yields_advance _ _).bind ?_)
    exact (yields_peekPastBlanks? quote text).bind (yields_pure _ _)

theorem yields_memberName (name : String) (v : Value) (rest : List UInt8) :
    memberName.Yields (memberBytes name v ++ rest) name
      (byte ':' :: (Utf8.encode v.chars ++ rest)) := by
  rw [memberBytes, encode_literal, List.append_assoc, List.cons_append, List.append_assoc]
  have read := yields_stringRest name.toList (byte ':' :: (Utf8.encode v.chars ++ rest))
  rw [String.ofList_toList] at read
  exact (yields_advance _ _).bind read

/-- The colon and the value of a member. -/
theorem Reads.afterColon {α : Type} {r : Reader α} {v : Value} {x : α} (h : r.Reads v x)
    {rest : List UInt8} (stops : Stops rest) :
    (do colon; r).Yields (byte ':' :: (Utf8.encode v.chars ++ rest)) x rest := by
  have read : colon.Yields (byte ':' :: (Utf8.encode v.chars ++ rest)) ()
      (Utf8.encode v.chars ++ rest) := by
    refine (yields_peekPastBlanks? (by decide) _).bind ?_
    dsimp only
    rw [if_pos rfl]
    exact yields_advance _ _
  exact read.bind (h rest stops)

/-- The members of an object fill slots, one after the other. -/
inductive Fills (slots : List (Slot σ)) : List (String × Value) → σ → σ → Prop
  | nil (s : σ) : Fills slots [] s s
  | known {name : String} {v : Value} {ms : List (String × Value)} {slot : Slot σ} {s s' s'' : σ} :
    (slots.find? fun slot => slot.name = name) = some slot → slot.isFilled s = false →
      (slot.read s).Reads v s' → Fills slots ms s' s'' → Fills slots ((name, v) :: ms) s s''
  | unknown {name : String} {v : Value} {ms : List (String × Value)} {s s' : σ} :
    (slots.find? fun slot => slot.name = name) = none → skipValue.Reads v () →
      Fills slots ms s s' → Fills slots ((name, v) :: ms) s s'

theorem Fills.yields {slots : List (Slot σ)} {ms : List (String × Value)} {s s' : σ}
    (h : Fills slots ms s s') (rest : List UInt8) {fuel : Nat} (enough : ms.length < fuel)
    (isFirst : Bool) :
    (fill slots fuel isFirst s).Yields (membersBytes isFirst ms ++ byte '\x7d' :: rest) s'
      (byte '\x7d' :: rest) := by
  induction h generalizing fuel isFirst with
  | nil s =>
    obtain ⟨fuel, rfl⟩ := Nat.exists_eq_add_one.2 (Nat.zero_lt_of_lt enough)
    exact (yields_moreMembers_end isFirst rest).bind (yields_pure s _)
  | @known name v ms slot s s' s'' found free read _ ih =>
    obtain ⟨fuel, rfl⟩ := Nat.exists_eq_add_one.2 (Nat.zero_lt_of_lt enough)
    have value := (read.afterColon (stops_membersBytes ms rest)).inside (.member name)
    rw [membersBytes, List.append_assoc, List.append_assoc]
    refine (yields_moreMembers isFirst name v _).bind ((yields_memberName name v _).bind ?_)
    simp only [found, free]
    exact value.bind (ih (Nat.lt_of_succ_lt_succ enough) false)
  | @unknown name v ms s s' none read _ ih =>
    obtain ⟨fuel, rfl⟩ := Nat.exists_eq_add_one.2 (Nat.zero_lt_of_lt enough)
    have value := (read.afterColon (stops_membersBytes ms rest)).inside (.member name)
    rw [membersBytes, List.append_assoc, List.append_assoc]
    refine (yields_moreMembers isFirst name v _).bind ((yields_memberName name v _).bind ?_)
    simp only [none]
    exact value.bind (ih (Nat.lt_of_succ_lt_succ enough) false)

/-- An object is read as the record that its members fill. -/
theorem Fills.reads_record {title : String} {slots : List (Slot σ)} {empty s : σ}
    {complete : σ → Except Mismatch α} {ms : List (String × Value)} {x : α}
    (h : Fills slots ms empty s) (completed : complete s = .ok x) :
    (record title slots empty complete).Reads (.object ms) x := by
  intro rest _
  rw [encode_object, List.cons_append, List.append_assoc]
  refine (yields_start (by decide) _).bind ?_
  rw [if_neg (by decide), if_pos rfl]
  refine (yields_advance _ _).bind ((yields_get _).bind ?_)
  have enough : ms.length <
      (membersBytes true ms ++ ([byte '\x7d'] ++ rest)).length + 1 := by
    have := length_le_membersBytes true ms
    rw [List.length_append]
    omega
  refine (h.yields rest enough true).bind ?_
  have close : closeObject.Yields (byte '\x7d' :: rest) () rest :=
    (yields_peekPastBlanks? (by decide) _).bind (yields_advance _ _)
  refine close.bind ?_
  rw [completed]
  exact yields_pure x rest

end Reader

end Teller.Json
