import Teller.Json.Fault
import Teller.Text.Utf8

/-!
# Reading JSON text

A reader takes bytes from the front of a text and yields a value or the first fault. It knows what
it expects, so a value of the wrong type is reported before anything that comes after it is looked
at. What was read stays read when a reader fails.
-/

namespace Teller.Json

/-- Reads from the front of the bytes that are left, or fails. -/
abbrev Reader := ExceptT Fault (StateM (List UInt8))

/-- The byte of an ASCII character. -/
def byte (c : Char) : UInt8 := c.toNat.toUInt8

/-- Space, line feed, tab and carriage return may stand between values. -/
def isBlank (b : UInt8) : Bool := b = 32 || b = 10 || b = 9 || b = 13

def isDigit (b : UInt8) : Bool := 48 ≤ b && b ≤ 57

namespace Reader

/-- Fails where the reader stands. -/
def fail {α : Type} (problem : Problem) : Reader α := do throw ⟨problem, (← get).length, []⟩

/-- Fails at the byte that comes next, or at the end if there is none. -/
def failAhead {α : Type} (problem : Problem) : Reader α := do
  throw ⟨problem, (← get).length - 1, []⟩

/-- The failure of a value that is not what was expected. -/
def mismatch {α : Type} (m : Mismatch) : Reader α := fail (.mismatch m)

/-- Reads inside a member or an element. -/
def inside {α : Type} (place : Place) (r : Reader α) : Reader α :=
  tryCatch r fun f => throw { f with path := place :: f.path }

/-- The next byte, if one is left. It stays where it is. -/
def peek? : Reader (Option UInt8) := do return (← get).head?

def advance : Reader Unit := modify (·.drop 1)

/-- The next byte, if one is left. It is read. -/
def next? : Reader (Option UInt8) := do
  let b ← peek?
  advance
  return b

/-- The first byte that is no blank; it stays unread. -/
def peekPastBlanks? : Reader (Option UInt8) := do
  modify (·.dropWhile isBlank)
  peek?

/-- The letters of a word, up to the first wrong one. -/
def word : List Char → Reader Unit
  | [] => return ()
  | c :: rest => do
    match ← next? with
    | none => fail .endOfValue
    | some b => if b = byte c then word rest else fail .unknownWord

/-! ## Strings -/

/-- The value of a hexadecimal digit of either case. -/
def hexValue? (b : UInt8) : Option Nat :=
  if isDigit b then some (b.toNat - 48)
  else if 97 ≤ b ∧ b ≤ 102 then some (b.toNat - 87)
  else if 65 ≤ b ∧ b ≤ 70 then some (b.toNat - 55)
  else none

/-- Four hexadecimal digits. -/
def hexUnit : Reader Nat := do
  let digits := (← get).take 4
  modify (·.drop 4)
  if digits.length < 4 then fail .endOfString
  else
    match digits.mapM hexValue? with
    | some values => return values.foldl (fun n v => n * 16 + v) 0
    | none => fail .badEscape

/-- Whether the unit can be the first of a pair. -/
def isHighSurrogate (n : Nat) : Bool := 0xD800 ≤ n && n ≤ 0xDBFF

/-- Whether the unit can be the second of a pair. -/
def isLowSurrogate (n : Nat) : Bool := 0xDC00 ≤ n && n ≤ 0xDFFF

/-- The next byte must be `c`; the byte found in its place is read too. -/
def pairByte (c : Char) : Reader Unit := do
  match ← next? with
  | none => fail .endOfString
  | some b => if b = byte c then return () else fail .brokenPair

/-- The character of a `\u` escape, two escapes for one beyond the basic plane. -/
def unicodeEscape : Reader Char := do
  let high ← hexUnit
  if isLowSurrogate high then fail .loneSurrogate
  else if isHighSurrogate high then
    pairByte '\\'
    pairByte 'u'
    let low ← hexUnit
    if isLowSurrogate low then
      return Char.ofNat ((high - 0xD800) * 0x400 + (low - 0xDC00) + 0x10000)
    else fail .loneSurrogate
  else return Char.ofNat high

/-- The short escapes and what they stand for. -/
def shortEscapes : List (Char × Char) :=
  [('"', '"'), ('\\', '\\'), ('/', '/'), ('b', '\x08'), ('f', '\x0c'), ('n', '\n'), ('r', '\r'),
    ('t', '\t')]

/-- The bytes of an escape after its backslash. -/
def escaped : Reader (List UInt8) := do
  match ← next? with
  | none => fail .endOfString
  | some b =>
    if b = byte 'u' then return Utf8.encodeChar (← unicodeEscape)
    else
      match shortEscapes.find? fun pair => byte pair.1 = b with
      | some (_, c) => return [byte c]
      | none => fail .badEscape

/-- The bytes of a string up to its closing quote, which is read. -/
def stringBytes : Nat → Reader (List UInt8)
  | 0 => fail .endOfString
  | fuel + 1 => do
    match ← next? with
    | none => fail .endOfString
    | some b =>
      if b = byte '"' then return []
      else if b = byte '\\' then
        let bytes ← escaped
        return bytes ++ (← stringBytes fuel)
      else if b < 32 then fail .control
      else return b :: (← stringBytes fuel)

/-- The rest of a string whose opening quote was read. -/
def stringRest : Reader String := do
  let bytes ← stringBytes ((← get).length + 1)
  match Utf8.toString? bytes with
  | some s => return s
  | none => fail .badUtf8

/-! ## Numbers -/

/-- The digits of a number as they stand, without its sign. -/
structure Lexeme where
  whole : List UInt8
  fraction : List UInt8
  /-- The exponent's sign (`true` for minus) and digits. -/
  exponent : Option (Bool × List UInt8)

/-- All the digits that come next, or none. -/
def digits : Reader (List UInt8) := do
  let rest ← get
  set (rest.dropWhile isDigit)
  return rest.takeWhile isDigit

/-- Digits before the point: a zero alone, or digits that start with another. -/
def wholePart (atEnd : Problem) : Reader (List UInt8) := do
  match ← next? with
  | none => fail atEnd
  | some b =>
    if b = byte '0' then
      match ← peek? with
      | some c => if isDigit c then failAhead .badNumber else return [b]
      | none => return [b]
    else if isDigit b then return b :: (← digits)
    else fail .badNumber

/-- A point and the digits after it, if there is a point. -/
def fractionPart (atEnd : Problem) : Reader (List UInt8) := do
  if (← peek?) = some (byte '.') then
    advance
    let ds ← digits
    if ds.isEmpty then
      if (← peek?).isNone then failAhead atEnd else failAhead .badNumber
    return ds
  else return []

/-- The sign and the digits of an exponent, if there is one. -/
def exponentPart (atEnd : Problem) : Reader (Option (Bool × List UInt8)) := do
  let mark ← peek?
  if mark = some (byte 'e') ∨ mark = some (byte 'E') then
    advance
    let sign ← peek?
    if sign = some (byte '+') ∨ sign = some (byte '-') then advance
    match ← next? with
    | none => fail atEnd
    | some b =>
      if isDigit b then return some (sign = some (byte '-'), b :: (← digits)) else fail .badNumber
  else return none

/-- A number after its sign. `atEnd` is the problem if the text stops where a digit must follow. -/
def lexeme (atEnd : Problem) : Reader Lexeme := do
  let whole ← wholePart atEnd
  let fraction ← fractionPart atEnd
  return ⟨whole, fraction, ← exponentPart atEnd⟩

/-- What a literal of a number can come to. -/
inductive Number where
  | natural (n : Nat)
  | negative (n : Int)
  | decimal (x : Float)

/-- The number that the digits spell. -/
def ofDigits (ds : List UInt8) : Nat := ds.foldl (fun n b => n * 10 + (b.toNat - 48)) 0

/-- Takes digits into a 64-bit number until the next would not fit; also how many were taken. -/
def absorb : Nat → List UInt8 → Nat × Nat
  | n, [] => (n, 0)
  | n, b :: rest =>
    let next := n * 10 + (b.toNat - 48)
    if next < UInt64.size then ((absorb next rest).1, (absorb next rest).2 + 1) else (n, 0)

/-- Divides by a power of ten, in steps that a double can hold. -/
def scaleDown : Nat → Float → Nat → Float
  | 0, x, _ => x
  | fuel + 1, x, power =>
    if power ≤ 308 then x / Float.ofScientific 1 false power
    else if x == 0 then x
    else scaleDown fuel (x / 1e308) (power - 308)

/-- The double for `significand * 10 ^ exponent`, rounded once for each factor, unless it is too large
for any. -/
def scale? (significand : Nat) (exponent : Int) : Option Float :=
  let x := significand.toUInt64.toFloat
  if exponent < 0 then some (scaleDown 4 x exponent.natAbs)
  else if exponent ≤ 308 then
    let y := x * Float.ofScientific 1 false exponent.toNat
    if y.isInf then none else some y
  else if x == 0 then some x
  else none

/-- The number with a minus sign, if there was one. -/
def signed (minus : Bool) (x : Float) : Float := if minus then -x else x

/-- The most that the digits of an exponent may come to. -/
def maxExponent : Nat := (1 <<< 31) - 1

/-- How many digits of an exponent it takes to pass the limit. -/
def digitsPastLimit? (ds : List UInt8) : Option Nat :=
  (List.range ds.length).map (· + 1) |>.find? fun k => ofDigits (ds.take k) > maxExponent

/-- The value of a number. Whole numbers of 64 bits are exact, all else is a double. -/
def numberValue (minus : Bool) (l : Lexeme) : Reader Number := do
  let (wholeValue, taken) := absorb 0 l.whole
  let dropped := l.whole.length - taken
  if dropped = 0 ∧ l.fraction.isEmpty ∧ l.exponent.isNone then
    if !minus then return .natural wholeValue
    else if wholeValue = 0 ∨ wholeValue > 1 <<< 63 then
      return .decimal (-wholeValue.toUInt64.toFloat)
    else return .negative (-Int.ofNat wholeValue)
  else
    let (significand, places) := absorb wholeValue l.fraction
    let shift := Int.ofNat dropped - Int.ofNat places
    let (down, ds) := l.exponent.getD (false, [])
    match digitsPastLimit? ds with
    | some k =>
      if significand ≠ 0 ∧ !down then
        throw ⟨.numberTooLarge, (← get).length + (ds.length - k), []⟩
      else return .decimal (signed minus 0)
    | none =>
      let exponent := shift + (if down then -Int.ofNat (ofDigits ds) else Int.ofNat (ofDigits ds))
      match scale? significand exponent with
      | some x => return .decimal (signed minus x)
      | none => fail .numberTooLarge

/-- A number that starts with the next byte, a digit or a minus. -/
def number : Reader Number := do
  let minus := (← peek?) = some (byte '-')
  if minus then advance
  numberValue minus (← lexeme .endOfValue)

/-! ## Values of the wrong type -/

/-- The kind of the number, as an error message tells it. -/
def Number.found : Number → Found
  | .natural n => .integer n
  | .negative n => .integer n
  | .decimal x => .decimal x

/-- Fails for the value that starts with `first`, read if it is a scalar. -/
def unexpected {α : Type} (expected : String) (first : UInt8) : Reader α := do
  let found ←
    if first = byte 'n' then advance; word ['u', 'l', 'l']; pure Found.nothing
    else if first = byte 't' then advance; word ['r', 'u', 'e']; pure (Found.boolean true)
    else if first = byte 'f' then advance; word ['a', 'l', 's', 'e']; pure (Found.boolean false)
    else if first = byte '-' ∨ isDigit first then pure (← number).found
    else if first = byte '"' then advance; pure (Found.text (← stringRest))
    else if first = byte '[' then pure Found.sequence
    else if first = byte '\x7b' then pure Found.mapping
    else failAhead .missingValue
  mismatch (.invalidType found expected)

/-- The first byte of the value that must follow. -/
def start : Reader UInt8 := do
  match ← peekPastBlanks? with
  | some b => return b
  | none => failAhead .endOfValue

/-! ## Scalars -/

/-- Reads a string literal. -/
def text : Reader String := do
  let first ← start
  if first = byte '"' then advance; stringRest else unexpected "a string" first

/-- A whole number of 64 bits with a sign. -/
def int64 : Reader Int64 := do
  let first ← start
  if first = byte '-' ∨ isDigit first then
    match ← number with
    | .natural n =>
      if n < 1 <<< 63 then return Int64.ofNat n
      else mismatch (.invalidValue (.integer n) "i64")
    | .negative n => return Int64.ofInt n
    | .decimal x => mismatch (.invalidType (.decimal x) "i64")
  else unexpected "i64" first

/-! ## Lists and objects -/

/-- Whether an element follows in a list; a comma must stand before any but the first. -/
def moreElements (isFirst : Bool) : Reader Bool := do
  match ← peekPastBlanks? with
  | none => failAhead .endOfList
  | some b =>
    if b = byte ']' then return false
    else if isFirst then return true
    else if b = byte ',' then
      advance
      match ← peekPastBlanks? with
      | none => failAhead .endOfValue
      | some c => if c = byte ']' then failAhead .trailingComma else return true
    else failAhead .missingListComma

/-- Whether a member follows in an object. -/
def moreMembers (isFirst : Bool) : Reader Bool := do
  match ← peekPastBlanks? with
  | none => failAhead .endOfObject
  | some b =>
    if b = byte '\x7d' then return false
    else
      if !isFirst then
        if b = byte ',' then advance else failAhead .missingObjectComma
      match ← peekPastBlanks? with
      | none => failAhead .endOfValue
      | some c =>
        if c = byte '"' then return true
        else if c = byte '\x7d' then failAhead .trailingComma
        else failAhead .keyNotString

/-- The name of a member that follows. -/
def memberName : Reader String := do
  advance
  stringRest

/-- Reads the colon between a name and its value. -/
def colon : Reader Unit := do
  match ← peekPastBlanks? with
  | none => failAhead .endOfObject
  | some b => if b = byte ':' then advance else failAhead .missingColon

/-- The closing bracket of a list. -/
def closeList : Reader Unit := do
  match ← peekPastBlanks? with
  | none => failAhead .endOfList
  | some b =>
    if b = byte ']' then advance
    else if b = byte ',' then
      advance
      if (← peekPastBlanks?) = some (byte ']') then failAhead .trailingComma
      else failAhead .trailingText
    else failAhead .trailingText

/-- The closing brace of an object. -/
def closeObject : Reader Unit := do
  match ← peekPastBlanks? with
  | none => failAhead .endOfObject
  | some b =>
    if b = byte '\x7d' then advance
    else if b = byte ',' then failAhead .trailingComma
    else failAhead .trailingText

/-! ## Skipping a value -/

/-- What a value can be inside of. -/
inductive Frame where
  | list
  | object
deriving DecidableEq

/-- The byte by which the frame ends. -/
def Frame.close : Frame → UInt8
  | .list => byte ']'
  | .object => byte '\x7d'

/-- The problem of a text that ends inside the frame. -/
def Frame.atEnd : Frame → Problem
  | .list => .endOfList
  | .object => .endOfObject

/-- The problem of two values in the frame with no comma between them. -/
def Frame.missingComma : Frame → Problem
  | .list => .missingListComma
  | .object => .missingObjectComma

/-- The rest of a string that is not kept: its bytes need not be text. -/
def skipString : Nat → Reader Unit
  | 0 => fail .endOfString
  | fuel + 1 => do
    match ← peek? with
    | none => fail .endOfString
    | some b =>
      if b < 32 then fail .control
      else
        advance
        if b = byte '"' then return ()
        else if b = byte '\\' then
          match ← next? with
          | none => fail .endOfString
          | some c =>
            if c = byte 'u' then discard hexUnit
            else if (shortEscapes.find? fun pair => byte pair.1 = c).isNone then fail .badEscape
          skipString fuel
        else skipString fuel

/-- Skips a value that is neither a list nor an object, given its first byte. -/
def skipScalar (first : UInt8) : Reader Unit := do
  if first = byte 'n' then advance; word ['u', 'l', 'l']
  else if first = byte 't' then advance; word ['r', 'u', 'e']
  else if first = byte 'f' then advance; word ['a', 'l', 's', 'e']
  else if first = byte '-' then advance; discard (lexeme .badNumber)
  else if isDigit first then discard (lexeme .badNumber)
  else if first = byte '"' then advance; skipString ((← get).length + 1)
  else failAhead .missingValue

/-- The name and the colon of a member that is not kept. -/
def skipName : Reader Unit := do
  match ← peekPastBlanks? with
  | none => failAhead .endOfObject
  | some b =>
    if b = byte '"' then
      advance
      skipString ((← get).length + 1)
      colon
    else failAhead .keyNotString

mutual

/-- Reads a value and what closes the open `frames` around it, to any depth. -/
def skipIn : Nat → List Frame → Reader Unit
  | 0, _ => failAhead .endOfValue
  | fuel + 1, frames => do
    let first ← start
    if first = byte '[' then advance; skipRest fuel (.list :: frames) false
    else if first = byte '\x7b' then advance; skipRest fuel (.object :: frames) false
    else skipScalar first; skipRest fuel frames true

/-- What follows inside the innermost frame, after a value or at its beginning. -/
def skipRest : Nat → List Frame → Bool → Reader Unit
  | _, [], _ => return ()
  | 0, _, _ => failAhead .endOfValue
  | fuel + 1, frame :: outer, afterValue => do
    match ← peekPastBlanks? with
    | none => failAhead frame.atEnd
    | some b =>
      if b = frame.close then advance; skipRest fuel outer true
      else
        if afterValue then
          if b = byte ',' then advance else failAhead frame.missingComma
        if frame = .object then skipName
        skipIn fuel (frame :: outer)

end

/-- Reads past a value of any kind without keeping it. -/
def skipValue : Reader Unit := do skipIn (2 * (← get).length + 2) []

/-! ## Any value -/

/-- Reads the elements of a list to its end. The fuel is for the recursion; every element takes a
byte. -/
def elementsWith {α : Type} (element : Reader α) : Nat → Bool → Reader (List α)
  | 0, _ => failAhead .endOfList
  | fuel + 1, isFirst => do
    if ← moreElements isFirst then
      let x ← element
      return x :: (← elementsWith element fuel false)
    else return []

/-- Reads the members of an object to its end, with fuel as for a list. -/
def membersWith {α : Type} (value : Reader α) : Nat → Bool → Reader (List (String × α))
  | 0, _ => failAhead .endOfObject
  | fuel + 1, isFirst => do
    if ← moreMembers isFirst then
      let name ← memberName
      colon
      let x ← value
      return (name, x) :: (← membersWith value fuel false)
    else return []

/-- A value of any kind, with fewer than `depth` lists and objects inside one another. -/
def value : Nat → Reader Value
  | 0 => failAhead .tooDeep
  | depth + 1 => do
    let first ← start
    if first = byte 'n' then advance; word ['u', 'l', 'l']; return .null
    else if first = byte 't' then advance; word ['r', 'u', 'e']; return .bool true
    else if first = byte 'f' then advance; word ['a', 'l', 's', 'e']; return .bool false
    else if first = byte '-' ∨ isDigit first then
      match ← number with
      | .natural n => return .integer n
      | .negative n => return .integer n
      | .decimal x => return .decimal x
    else if first = byte '"' then advance; return .text (← stringRest)
    else if first = byte '[' then
      if depth = 0 then failAhead .tooDeep
      advance
      let items ← elementsWith (value depth) ((← get).length + 1) true
      closeList
      return .array items
    else if first = byte '\x7b' then
      if depth = 0 then failAhead .tooDeep
      advance
      let members ← membersWith (value depth) ((← get).length + 1) true
      closeObject
      return .object members
    else failAhead .missingValue

/-! ## Whole texts -/

/-- Nothing but blanks may follow. -/
def finish : Reader Unit := do
  if (← peekPastBlanks?).isSome then failAhead .trailingText

/-- Reads the whole of a text. -/
def all {α : Type} (r : Reader α) (bytes : List UInt8) : Except Fault α :=
  ((do let x ← r; finish; return x : Reader α).run.run bytes).1

end Reader

end Teller.Json
