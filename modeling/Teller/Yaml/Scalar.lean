import Teller.Mismatch
import Teller.Yaml.Node

/-!
# What scalars mean

A plain scalar without a tag may spell nothing, a truth value or a number; every other scalar is a
text, unless a tag says which of these it spells.

    null Null NULL ~ and nothing at all    true false, also capitalised or in capitals
    12 +12 -12 0x1f 0o17 0b101             1.5 -.5 1e3 .inf -.inf .nan

A number that starts with a zero and goes on with digits is a text.
-/

namespace Teller.Yaml

/-- Whether the text spells nothing. -/
def isNull (s : String) : Bool := ["null", "Null", "NULL", "~"].contains s

/-- The truth value that the text spells. -/
def boolean? (s : String) : Option Bool :=
  if ["true", "True", "TRUE"].contains s then some true
  else if ["false", "False", "FALSE"].contains s then some false
  else none

/-! ## Whole numbers -/

/-- The value of a digit of the base. -/
def digitValue? (base : Nat) (c : Char) : Option Nat :=
  (hexValue? c).filter (· < base)

/-- The number with these digits, of which there is at least one. -/
def digits? (base : Nat) (cs : List Char) : Option Nat :=
  if cs.isEmpty then none
  else (cs.mapM (digitValue? base)).map fun ds => ds.foldl (fun n d => n * base + d) 0

/-- The marks of the bases other than ten. -/
def bases : List (Char × Nat) := [('x', 16), ('o', 8), ('b', 2)]

def isSign (c : Char) : Bool := c = '+' || c = '-'

/-- Whether there are only digits after a sign and a leading zero, and at least one. -/
def isPadded (cs : List Char) : Bool :=
  match (if cs.head?.any isSign then cs.tail else cs) with
  | '0' :: c :: rest => (c :: rest).all isDigit
  | _ => false

/-- The number without a sign, in any base. -/
def magnitude? (cs : List Char) : Option Nat :=
  match cs with
  | '0' :: c :: rest =>
    match bases.lookup c with
    | some base => digits? base rest
    | none => digits? 10 cs
  | _ => digits? 10 cs

/-- A number from zero, with or without a plus sign. -/
def unsigned? (s : String) : Option Nat :=
  let cs := s.toList
  if isPadded cs then none
  else magnitude? (if cs.head? = some '+' then cs.tail else cs)

/-- The number below zero that the text spells. -/
def negative? (s : String) : Option Int :=
  match s.toList with
  | '-' :: rest => if isPadded rest then none else (magnitude? rest).map fun n => -Int.ofNat n
  | _ => none

/-- A whole number of at most 128 bits. -/
def integer? (s : String) : Option Int :=
  match unsigned? s with
  | some n => if n < 1 <<< 128 then some n else none
  | none => (negative? s).filter fun n => n.natAbs ≤ 1 <<< 127

/-! ## Decimals -/

/-- The double nearest to `± m * 10 ^ e`, unless it is infinite. -/
def nearest? (minus : Bool) (m : Nat) (e : Int) : Option Float :=
  let lead := e + (toString m).length
  let x :=
    if m = 0 ∨ lead < -330 then 0.0
    else if 310 < lead then 1.0 / 0.0
    else if 0 ≤ e then Float.ofScientific (m * Nat.pow 10 e.toNat) false 0
    else Float.ofScientific m true e.natAbs
  if x.isFinite then some (if minus then -x else x) else none

/-- A decimal without infinities. There must be a digit before or after the point. -/
def finite? (cs : List Char) : Option Float := do
  let minus := cs.head? = some '-'
  let cs := if cs.head?.any isSign then cs.tail else cs
  let (whole, rest) := cs.span isDigit
  let (part, rest) :=
    match rest with
    | '.' :: rest => rest.span isDigit
    | rest => ([], rest)
  let m ← digits? 10 (whole ++ part)
  let e : Int ←
    match rest with
    | [] => some 0
    | c :: rest =>
      if c = 'e' ∨ c = 'E' then do
        let e ← digits? 10 (if rest.head?.any isSign then rest.tail else rest)
        some (if rest.head? = some '-' then -Int.ofNat e else e)
      else none
  nearest? minus m (e - part.length)

/-- The float that the text spells: infinity and what is no number have names of their own. -/
def decimal? (s : String) : Option Float :=
  let bare := if s.startsWith "+" then (s.toList.drop 1) else s.toList
  if s.startsWith "+" ∧ bare.head?.any isSign then none
  else if [".inf", ".Inf", ".INF"].contains (String.ofList bare) then some (1.0 / 0.0)
  else if ["-.inf", "-.Inf", "-.INF"].contains s then some (-1.0 / 0.0)
  else if [".nan", ".NaN", ".NAN"].contains s then some (0.0 / 0.0)
  else finite? bare

/-- What a plain scalar without a tag means. -/
def meaning (s : String) : Found :=
  if s.isEmpty ∨ isNull s then .nothing
  else
    match boolean? s, integer? s, decimal? s with
    | some b, _, _ => .boolean b
    | none, some n, _ => .integer n
    | none, none, some x => if isPadded s.toList then .text s else .decimal x
    | none, none, none => .text s

namespace Tag

def boolean : String := "tag:yaml.org,2002:bool"
def integer : String := "tag:yaml.org,2002:int"
def decimal : String := "tag:yaml.org,2002:float"
def null : String := "tag:yaml.org,2002:null"

end Tag

namespace Scalar

/-- What is wrong with a scalar where something else is expected. -/
def mismatch (s : Scalar) (expected : String) : Mismatch :=
  let tagged (found : Option Found) (what : String) : Mismatch :=
    match found with
    | some f => .invalidType f expected
    | none => .invalidValue (.text s.text) what
  match s.tag with
  | none => .invalidType (if s.style = .plain then meaning s.text else .text s.text) expected
  | some t =>
    if t = Tag.boolean then tagged ((boolean? s.text).map .boolean) "a boolean"
    else if t = Tag.integer then tagged ((integer? s.text).map .integer) "an integer"
    else if t = Tag.decimal then tagged ((decimal? s.text).map .decimal) "a float"
    else if t = Tag.null then tagged (if isNull s.text then some .nothing else none) "null"
    else .invalidType (.text s.text) expected

/-- Whether a scalar may spell a value of the kind that a tag names. -/
def maySpell (s : Scalar) (tag : String) : Bool :=
  s.style = .plain || (s.style = .literal && s.tag = some tag)

/-- Whether nothing was written. -/
def isBlank (s : Scalar) : Bool := s.style = .plain && s.text.isEmpty

/-- The name that a tag of the document's own gives, as in `!name`. -/
def ownTag? : Option String → Option String
  | some tag => if tag.startsWith "!" then some (String.ofList (tag.toList.drop 1)) else none
  | none => none

end Scalar

/-- Decimals have a point and no exponent. -/
def decimalText (x : Float) : String :=
  if x.isNaN then "NaN"
  else if x.isInf then (if x < 0 then "-inf" else "inf")
  else Decimal.ofFloat ⟨-400, 400⟩ x

/-- How values are called in the messages about a YAML text. -/
def wording : Wording := ⟨"unit value", decimalText⟩

end Teller.Yaml
