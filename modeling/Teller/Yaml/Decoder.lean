import Teller.Decoder
import Teller.Yaml.Scalar

/-!
# Reading YAML documents

A record is a mapping whose keys are scalars, or nothing at all; unknown keys are skipped. What is
wrong with a value is reported with the way to it, as in `gateway.port`. A document is read in its
order, so a value of the wrong shape is reported before a place where the text itself is broken.
-/

namespace Teller.Yaml

/-- The text is no YAML or more than one document, or a value in it has the wrong shape. -/
inductive Failure where
  | problem (p : Problem)
  | mismatch (path : List String) (mark : Mark) (m : Mismatch)

/-- What is wrong with a value, after the way to it. -/
def describe (path : List String) (m : Mismatch) : String :=
  let said := m.message wording
  if path.isEmpty then said else ".".intercalate path ++ ": " ++ said

/-- A mismatch at the very start of a text is told without its place. -/
def Failure.message : Failure → String
  | .problem p => p.message
  | .mismatch path mark m =>
    describe path m ++ (if mark.isFirst then "" else " at " ++ mark.text)

/-- A node in its document and the way to it. -/
structure Place where
  document : Document
  path : List String
  node : Node
  /-- Where the mapping around the node starts. -/
  around : Mark

mutual

/-- Whether a tree is broken somewhere. -/
def Node.isBroken : Node → Bool
  | .broken => true
  | .scalar .. | .alias _ => false
  | .sequence _ _ items => anyBroken items
  | .mapping _ _ pairs => anyPairBroken pairs

/-- Whether one of the nodes is broken. -/
def anyBroken : List Node → Bool
  | [] => false
  | n :: rest => n.isBroken || anyBroken rest

/-- Whether a key or a value is broken. -/
def anyPairBroken : List (Node × Node) → Bool
  | [] => false
  | (k, v) :: rest => k.isBroken || v.isBroken || anyPairBroken rest

end

namespace Place

variable {α σ : Type}

/-- The node at the place, or the one that an alias there names. -/
def target (p : Place) : Node := p.document.resolve p.node

/-- Where the target starts. -/
def mark (p : Place) : Mark :=
  match p.target with
  | .scalar mark _ | .sequence mark _ _ | .mapping mark _ _ => mark
  | .broken | .alias _ => .origin

/-- The failure of a node that was not what was expected, with its place and the way to it. -/
def fail (p : Place) (m : Mismatch) : Except Failure α := .error (.mismatch p.path p.mark m)

/-- Fails where the text is broken. -/
def stop (p : Place) : Except Failure α :=
  .error (.problem (p.document.problem.getD (.lone .origin .noContent)))

/-- What is wrong with a node where something else is expected. -/
def mismatch (p : Place) (expected : String) : Except Failure α :=
  match p.target with
  | .scalar _ s => p.fail (s.mismatch expected)
  | .sequence .. => p.fail (.invalidType .sequence expected)
  | .mapping .. => p.fail (.invalidType .mapping expected)
  | .broken | .alias _ => p.stop

/-- Any scalar is a text. -/
def text (p : Place) : Except Failure String :=
  match p.target with
  | .scalar _ s => .ok s.text
  | _ => p.mismatch "a string"

/-- The truth value that a scalar spells. -/
def boolean (p : Place) : Except Failure Bool :=
  match p.target with
  | .scalar _ s =>
    match (if s.maySpell Tag.boolean then boolean? s.text else none) with
    | some b => .ok b
    | none => p.mismatch "a boolean"
  | _ => p.mismatch "a boolean"

/-- The number that a scalar spells, if it fits in so many bits. -/
def natural (bits : Nat) (p : Place) : Except Failure Nat :=
  let expected := s!"u{bits}"
  match p.target with
  | .scalar _ s =>
    match (if s.maySpell Tag.integer then unsigned? s.text else none) with
    | some n =>
      if n < 1 <<< bits then .ok n
      else if n < UInt64.size then p.fail (.invalidValue (.integer n) expected)
      else p.mismatch expected
    | none => p.mismatch expected
  | _ => p.mismatch expected

/-- A name given by a tag: the mapping around it answers for it if it is unknown, and there must be
nothing beside it. -/
def taggedChoice (names : List String) (name : String) (p : Place) : Except Failure String :=
  if !names.contains name then
    .error (.mismatch p.path.dropLast p.around (.unknownVariant name names))
  else
    match p.target with
    | .scalar _ s =>
      if s.style = .plain ∧ (s.text.isEmpty ∨ isNull s.text) then .ok name
      else p.fail (.invalidValue (.text s.text) "null")
    | _ => p.mismatch "unit"

/-- One of the names, as a tag or as the text of a scalar. -/
def choice (names : List String) (p : Place) : Except Failure String :=
  let tag? := match p.target with
    | .scalar _ s => Scalar.ownTag? s.tag
    | .sequence _ tag _ | .mapping _ tag _ => Scalar.ownTag? tag
    | .broken | .alias _ => none
  match tag?, p.target with
  | some name, _ => taggedChoice names name p
  | none, .scalar _ s =>
    if names.contains s.text then .ok s.text else p.fail (.unknownVariant s.text names)
  | none, _ => p.mismatch "a YAML tag starting with '!'"

/-- The pairs of a mapping into the fields of a record. -/
def fill (p : Place) (fields : List (Field Place Failure σ)) :
    List (Node × Node) → σ → Except Failure σ
  | [], s => .ok s
  | (key, value) :: rest, s => do
    let name ← match p.document.resolve key with
      | .scalar _ name => pure name.text
      | _ => ({ p with node := key } : Place).mismatch "field identifier"
    match fields.find? fun f => f.name = name with
    | some f =>
      if f.isFilled s then p.fail (.duplicateField name)
      let segment := match key with
        | .alias _ => "?"
        | _ => name
      fill p fields rest (← f.read ⟨p.document, p.path ++ [segment], value, p.mark⟩ s)
    | none => if value.isBroken then p.stop else fill p fields rest s

/-- A record is a mapping of its fields, or nothing at all if none is needed. -/
def record (title : String) (fields : List (Field Place Failure σ)) (empty : σ)
    (complete : σ → Except Mismatch α) (p : Place) : Except Failure α :=
  let finish (s : σ) : Except Failure α :=
    match complete s with
    | .ok x => .ok x
    | .error m => p.fail m
  match p.target with
  | .mapping _ _ pairs => do finish (← fill p fields pairs empty)
  | .scalar _ s => if s.isBlank then finish empty else p.mismatch s!"struct {title}"
  | _ => p.mismatch s!"struct {title}"

end Place

/-- YAML as a format in which configurations are written. -/
def decoder : Decoder Place Failure where
  text := Place.text
  boolean := Place.boolean
  natural := Place.natural
  choice := Place.choice
  record := Place.record

/-- Reads the only document of a text. An empty text is read like nothing. -/
def read {α : Type} (decode : Place → Except Failure α) (text : String) : Except Failure α := do
  let document := Document.read text
  let x ← decode ⟨document, [], document.root.getD (.empty .origin), .origin⟩
  match document.problem with
  | some p => .error (.problem p)
  | none => return x

end Teller.Yaml
