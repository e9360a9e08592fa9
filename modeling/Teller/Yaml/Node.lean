import Teller.Yaml.Scanner

/-!
# The nodes of a YAML document

A document is a tree of scalars, sequences and mappings. A node can be given a name, by which it
stands in other places too. Where a text breaks the rules, or ends inside a node, the tree has a
`broken` node and nothing after it.

A flow collection may hold `? key : value`; a block sequence may stand unindented in a mapping. A
value that is left out is an empty plain scalar.
-/

namespace Teller.Yaml

/-- A text with what was said of how to take it. -/
structure Scalar where
  style : Style
  tag : Option String
  text : String
deriving DecidableEq

/-- A node knows where it starts, its name and its tag included. -/
inductive Node where
  | broken
  | scalar (mark : Mark) (s : Scalar)
  | sequence (mark : Mark) (tag : Option String) (items : List Node)
  | mapping (mark : Mark) (tag : Option String) (pairs : List (Node × Node))
  /-- The named node of that number. -/
  | alias (number : Nat)

/-- What stands where nothing is written. -/
def Node.empty (mark : Mark) : Node := .scalar mark ⟨.plain, none, ""⟩

/-- A document: its root, unless the text is empty, and its named nodes by number. -/
structure Document where
  root : Option Node
  named : List (Nat × Node)
  /-- What is wrong in the document or after it. -/
  problem : Option Problem

/-- What an alias stands for. -/
def Document.resolve (d : Document) : Node → Node
  | .alias number => (d.named.lookup number).getD .broken
  | node => node

/-- The tokens left and the problem after them, the numbers of names, what they name, the heads of
tag handles, and the problem that ended the tree. -/
structure Composer where
  tokens : Tokens
  names : List (String × Nat)
  named : List (Nat × Node)
  heads : List (String × String)
  problem : Option Problem

/-- Builds nodes from the tokens that are left. -/
abbrev Compose := StateM Composer

namespace Compose

/-- The next token, if one is left. It stays where it is. -/
def peek? : Compose (Option Lexeme) := do return (← get).tokens.list.head?

def skip : Compose Unit := modify fun s => { s with tokens.list := s.tokens.list.drop 1 }

/-- Whether a problem has been found. -/
def isBroken : Compose Bool := do return (← get).problem.isSome

/-- Ends the tree here. -/
def stop (p : Problem) : Compose Node := do
  modify fun s => { s with problem := some p }
  return .broken

/-- Stops for a problem that was found in the course of an activity. -/
def stopDuring (finding : Finding) (place : Mark) (activity : Activity) (since : Mark) :
    Compose Node :=
  stop ⟨finding, place, 0, some (activity, since)⟩

/-- Ends the tree where no more tokens can be had. -/
def stopAtEnd : Compose Node := do
  stop ((← get).tokens.problem.getD (.lone .origin .noContent))

/-- What `!` and `!!` stand for. -/
def standardHeads : List (String × String) := [("!", "!"), ("!!", "tag:yaml.org,2002:")]

/-- The full tag, unless its handle is unknown. -/
def fullTag? (handle suffix : String) : Compose (Option String) := do
  if handle.isEmpty then return some suffix
  else return ((← get).heads.lookup handle).map (· ++ suffix)

/-- Gives a name a number: how many different names there were before. -/
def register (name : String) : Compose Nat := do
  let number := ((← get).names.map (·.1)).eraseDups.length
  modify fun s => { s with names := (name, number) :: s.names }
  return number

/-- What a node can start with. -/
structure Properties where
  anchor : Option String
  /-- The handle and the suffix of the tag, and where it stands. -/
  tag : Option (String × String × Mark)

/-- An anchor and a tag, in either order, each at most once. -/
def properties : Compose Properties := do
  match ← peek? with
  | some ⟨.anchor a, _, _⟩ =>
    skip
    match ← peek? with
    | some ⟨.tag h s, mark, _⟩ => skip; return ⟨some a, some (h, s, mark)⟩
    | _ => return ⟨some a, none⟩
  | some ⟨.tag h s, mark, _⟩ =>
    skip
    match ← peek? with
    | some ⟨.anchor a, _, _⟩ => skip; return ⟨some a, some (h, s, mark)⟩
    | _ => return ⟨none, some (h, s, mark)⟩
  | _ => return ⟨none, none⟩

/-- What a node's content depends on besides the tokens. -/
structure Setting where
  /-- Whether block collections are admitted, and a sequence without a start. -/
  block : Bool
  unindented : Bool
  /-- Where the node starts, its tag, and whether it has any properties. -/
  mark : Mark
  tag : Option String
  hasProperties : Bool

/-- A node without content, which must have properties. -/
def bare (s : Setting) (place : Mark) : Compose Node :=
  if s.hasProperties then return .scalar s.mark ⟨.plain, s.tag, ""⟩
  else stopDuring .noContent place (if s.block then .blockNode else .flowNode) s.mark

mutual

/-- A node; `block` admits block collections, `unindented` a sequence without a start. -/
def node (block unindented : Bool) : Nat → Compose Node
  | 0 => stopAtEnd
  | fuel + 1 => do
    match ← peek? with
    | none => stopAtEnd
    | some ⟨.alias name, mark, _⟩ =>
      match (← get).names.lookup name with
      | some number => skip; return .alias number
      | none => stop (.lone mark .unknownAnchor)
    | some ⟨_, mark, _⟩ =>
      let given ← properties
      match ← peek? with
      | none => stopAtEnd
      | some t =>
        let tag? ← match given.tag with
          | none => pure (some none)
          | some (handle, suffix, _) => do pure ((← fullTag? handle suffix).map some)
        match tag? with
        | none =>
          let place := (given.tag.map fun t => t.2.2).getD mark
          stopDuring .undefinedHandle place .node mark
        | some tag =>
          let number? ← given.anchor.mapM register
          let hasProperties := given.anchor.isSome || tag.isSome
          let content ← content ⟨block, unindented, mark, tag, hasProperties⟩ t fuel
          if let some number := number? then
            modify fun s => { s with named := (number, content) :: s.named }
          return content

/-- What follows the properties of a node. -/
def content (s : Setting) (t : Lexeme) : Nat → Compose Node
  | 0 => stopAtEnd
  | fuel + 1 => do
    match t.token with
    | .blockEntry =>
      if s.unindented then return .sequence s.mark s.tag (← unindentedItems fuel)
      else bare s t.start
    | .scalar style text => skip; return .scalar s.mark ⟨style, s.tag, text⟩
    | .flowSequenceStart => skip; return .sequence s.mark s.tag (← flowItems t.start true fuel)
    | .flowMappingStart => skip; return .mapping s.mark s.tag (← flowPairs t.start true fuel)
    | .blockSequenceStart =>
      if s.block then
        skip
        return .sequence s.mark s.tag (← blockItems t.start fuel)
      else bare s t.start
    | .blockMappingStart =>
      if s.block then
        skip
        return .mapping s.mark s.tag (← blockPairs t.start fuel)
      else bare s t.start
    | _ => bare s t.start

/-- A node, or an empty one at `mark` if one of `closers` comes next. In a flow collection the
empty one stands where the next token does. -/
def nodeOrEmpty (block unindented : Bool) (closers : List Token) (mark : Mark) :
    Nat → Compose Node
  | 0 => stopAtEnd
  | fuel + 1 => do
    match ← peek? with
    | none => stopAtEnd
    | some t =>
      if closers.contains t.token then return .empty (if block then mark else t.start)
      else node block unindented fuel

/-- The value of a key, empty if there is no colon. -/
def pairValue (block unindented : Bool) (closers : List Token) : Nat → Compose Node
  | 0 => stopAtEnd
  | fuel + 1 => do
    match ← peek? with
    | none => stopAtEnd
    | some t =>
      if t.token = .value then
        skip
        nodeOrEmpty block unindented closers t.stop fuel
      else return .empty t.start

/-- The items of a block sequence that started at `since`. -/
def blockItems (since : Mark) : Nat → Compose (List Node)
  | 0 => return [← stopAtEnd]
  | fuel + 1 => do
    match ← peek? with
    | some ⟨.blockEntry, _, stop⟩ =>
      skip
      let item ← nodeOrEmpty true false [.blockEntry, .blockEnd] stop fuel
      if ← isBroken then return [item]
      return item :: (← blockItems since fuel)
    | some ⟨.blockEnd, _, _⟩ => skip; return []
    | some t => return [← stopDuring .noEntry t.start .blockSequence since]
    | none => return [← stopAtEnd]

/-- The items of a sequence that is not deeper than the mapping around it. -/
def unindentedItems : Nat → Compose (List Node)
  | 0 => return [← stopAtEnd]
  | fuel + 1 => do
    match ← peek? with
    | some ⟨.blockEntry, _, stop⟩ =>
      skip
      let item ← nodeOrEmpty true false [.blockEntry, .key, .value, .blockEnd] stop fuel
      if ← isBroken then return [item]
      return item :: (← unindentedItems fuel)
    | some _ => return []
    | none => return [← stopAtEnd]

/-- The pairs of a block mapping that started at `since`. -/
def blockPairs (since : Mark) : Nat → Compose (List (Node × Node))
  | 0 => return [(← stopAtEnd, .broken)]
  | fuel + 1 => do
    match ← peek? with
    | some ⟨.key, _, stop⟩ =>
      skip
      let key ← nodeOrEmpty true true [.key, .value, .blockEnd] stop fuel
      if ← isBroken then return [(key, .broken)]
      let value ← pairValue true true [.key, .value, .blockEnd] fuel
      if ← isBroken then return [(key, value)]
      return (key, value) :: (← blockPairs since fuel)
    | some ⟨.blockEnd, _, _⟩ => skip; return []
    | some t => return [(← stopDuring .noKey t.start .blockMapping since, .broken)]
    | none => return [(← stopAtEnd, .broken)]

/-- The items up to the closing bracket, each after a comma unless it is the first. -/
def flowItems (since : Mark) (isFirst : Bool) : Nat → Compose (List Node)
  | 0 => return [← stopAtEnd]
  | fuel + 1 => do
    match ← peek? with
    | none => return [← stopAtEnd]
    | some t =>
      if t.token = .flowSequenceEnd then
        skip
        return []
      if !isFirst then
        if t.token = .flowEntry then skip
        else return [← stopDuring .unclosedSequence t.start .flowSequence since]
      match ← peek? with
      | none => return [← stopAtEnd]
      | some ⟨.flowSequenceEnd, _, _⟩ => skip; return []
      | some ⟨.key, mark, _⟩ =>
        skip
        let pair ← flowPair fuel
        if ← isBroken then return [.mapping mark none [pair]]
        return .mapping mark none [pair] :: (← flowItems since false fuel)
      | some _ =>
        let item ← node false false fuel
        if ← isBroken then return [item]
        return item :: (← flowItems since false fuel)

/-- A key and its value as an item of a flow sequence. -/
def flowPair : Nat → Compose (Node × Node)
  | 0 => return (← stopAtEnd, .broken)
  | fuel + 1 => do
    let closers : List Token := [.value, .flowEntry, .flowSequenceEnd]
    let next ← peek?
    let key ← nodeOrEmpty false false closers .origin fuel
    if next.any fun t => closers.contains t.token then skip
    if ← isBroken then return (key, .broken)
    return (key, ← pairValue false false [.flowEntry, .flowSequenceEnd] fuel)

/-- The pairs up to the closing brace, each after a comma unless it is the first. -/
def flowPairs (since : Mark) (isFirst : Bool) : Nat → Compose (List (Node × Node))
  | 0 => return [(← stopAtEnd, .broken)]
  | fuel + 1 => do
    match ← peek? with
    | none => return [(← stopAtEnd, .broken)]
    | some t =>
      if t.token = .flowMappingEnd then
        skip
        return []
      if !isFirst then
        if t.token = .flowEntry then skip
        else return [(← stopDuring .unclosedMapping t.start .flowMapping since, .broken)]
      match ← peek? with
      | none => return [(← stopAtEnd, .broken)]
      | some ⟨.flowMappingEnd, _, _⟩ => skip; return []
      | some ⟨.key, _, _⟩ =>
        skip
        let key ← nodeOrEmpty false false [.value, .flowEntry, .flowMappingEnd] .origin fuel
        if ← isBroken then return [(key, .broken)]
        let value ← pairValue false false [.flowEntry, .flowMappingEnd] fuel
        if ← isBroken then return [(key, value)]
        return (key, value) :: (← flowPairs since false fuel)
      | some _ =>
        let key ← node false false fuel
        if ← isBroken then return [(key, .broken)]
        match ← peek? with
        | none => return [(key, ← stopAtEnd)]
        | some t => return (key, .empty t.start) :: (← flowPairs since false fuel)

end

/-- The directives before a document: the heads they give to tag handles, and what follows. Only
YAML 1.1 and 1.2 are known, and nothing is said twice. -/
def directives (hasVersion : Bool) (heads : List (String × String)) :
    List Lexeme → Except Problem (List (String × String) × List Lexeme)
  | ⟨.versionDirective major minor, mark, _⟩ :: rest =>
    if hasVersion then .error (.lone mark .secondVersion)
    else if major ≠ 1 ∨ (minor ≠ 1 ∧ minor ≠ 2) then .error (.lone mark .unknownVersion)
    else directives true heads rest
  | ⟨.tagDirective handle head, mark, _⟩ :: rest =>
    if (heads.lookup handle).isSome then .error (.lone mark .secondHandle)
    else directives hasVersion ((handle, head) :: heads) rest
  | rest => .ok (heads, rest)

/-- Whether a document that was started has nothing in it. -/
def endsDocument : Token → Bool
  | .versionDirective .. | .tagDirective .. | .documentStart | .documentEnd | .streamEnd => true
  | _ => false

/-- What is wrong after a document: anything but the end of the text counts as a second document. -/
def problemAfter (tokens : Tokens) : Option Problem :=
  match tokens.list with
  | [] => tokens.problem
  | rest =>
    match rest.dropWhile fun t => t.token = .documentEnd with
    | ⟨.streamEnd, _, _⟩ :: _ => none
    | _ => some (.lone .origin .secondDocument)

/-- The tree that the tokens of a document start with, after its directives. -/
def document (tokens : Tokens) (heads : List (String × String)) : Document :=
  let composer : Composer := ⟨tokens, [], [], heads ++ standardHeads, none⟩
  let (root, s) := (node true false (4 * (tokens.list.length + 4))).run composer
  ⟨some root, s.named,
    if s.problem.isSome then s.problem else problemAfter s.tokens⟩

end Compose

open Compose in
/-- The first document of a text. -/
def Document.ofTokens (tokens : Tokens) : Document :=
  let broken (p : Problem) : Document := ⟨some .broken, [], some p⟩
  match tokens.list with
  | ⟨.streamEnd, _, _⟩ :: _ => ⟨none, [], none⟩
  | _ =>
    match directives false [] tokens.list with
    | .error p => broken p
    | .ok (heads, ⟨.documentStart, _, stop⟩ :: rest) =>
      match rest with
      | [] => broken (tokens.problem.getD (.lone stop .noContent))
      | t :: _ =>
        if endsDocument t.token then
          ⟨some (.empty t.start), [], problemAfter { tokens with list := rest }⟩
        else document { tokens with list := rest } heads
    | .ok (heads, rest) =>
      if rest.length = tokens.list.length then document tokens heads
      else
        match rest with
        | [] => broken (tokens.problem.getD (.lone .origin .noDocumentStart))
        | t :: _ => broken (.lone t.start .noDocumentStart)

/-- The document of a text. -/
def Document.read (text : String) : Document := .ofTokens (.ofText text)

end Teller.Yaml
