import Teller.Json.Reader

/-!
# Reading records

A record is written as an object, members in any order and unknown ones skipped, or as the list of
its fields in order. Each field has a slot that says whether it was filled and reads its value into
the record built so far.
-/

namespace Teller.Json

/-- A place of a record that the member of a name fills. -/
structure Slot (σ : Type) where
  name : String
  isFilled : σ → Bool
  read : σ → Reader σ

/-- A slot whose value is kept as an option in the record. -/
def Slot.of {σ α : Type} (name : String) (get : σ → Option α) (put : α → σ → σ) (r : Reader α) :
    Slot σ where
  name := name
  isFilled s := (get s).isSome
  read s := do return put (← r) s

/-- The field of a filled slot, or a mismatch that names it. -/
def require {α : Type} (name : String) (field : Option α) : Except Mismatch α :=
  match field with
  | some x => .ok x
  | none => .error (.missingField name)

namespace Reader

variable {σ α : Type}

/-- The members of an object into their slots, up to the closing brace, which stays unread. -/
def fill (slots : List (Slot σ)) : Nat → Bool → σ → Reader σ
  | 0, _, _ => failAhead .endOfObject
  | fuel + 1, isFirst, s => do
    if ← moreMembers isFirst then
      let name ← memberName
      match slots.find? fun slot => slot.name = name with
      | some slot =>
        if slot.isFilled s then
          tryCatch closeObject fun _ => return ()
          mismatch (.duplicateField name)
        else
          let s ← inside (.member name) (do colon; slot.read s)
          fill slots fuel false s
      | none =>
        inside (.member name) (do colon; skipValue)
        fill slots fuel false s
    else return s

/-- What a list of fields must be. -/
def listExpectation (title : String) (count : Nat) : String :=
  "struct " ++ title ++ s!" with {count} element" ++ (if count = 1 then "" else "s")

/-- The elements of a list into the slots in order. -/
def fillInOrder (title : String) (count : Nat) : List (Slot σ) → Nat → σ → Reader σ
  | [], _, s => return s
  | slot :: rest, i, s => do
    let next ← inside (.element i) (do
      if ← moreElements (i = 0) then return some (← slot.read s) else return none)
    match next with
    | some s => fillInOrder title count rest (i + 1) s
    | none =>
      closeList
      mismatch (.invalidLength i (listExpectation title count))

/-- A record called `title`, built in the slots from `empty` and completed by `complete`. -/
def record (title : String) (slots : List (Slot σ)) (empty : σ) (complete : σ → Except Mismatch α) :
    Reader α := do
  let first ← start
  if first = byte '[' then
    advance
    let s ← fillInOrder title slots.length slots 0 empty
    closeList
    match complete s with
    | .ok x => return x
    | .error m => mismatch m
  else if first = byte '\x7b' then
    advance
    let s ← fill slots ((← get).length + 1) true empty
    closeObject
    match complete s with
    | .ok x => return x
    | .error m => mismatch m
  else unexpected ("struct " ++ title) first

end Reader

end Teller.Json
