import Teller.Json.Value
import Teller.Mismatch

/-!
# Why a JSON text is refused

A text ends too early, breaks the grammar, or spells a value of the wrong shape. A fault keeps how
many bytes were left when it was found, from which line and column follow, and the member or element
it was found in.
-/

namespace Teller.Json

/-- What can be wrong with a text. -/
inductive Problem where
  | endOfList
  | endOfObject
  | endOfString
  | endOfValue
  | missingColon
  | missingListComma
  | missingObjectComma
  | unknownWord
  | missingValue
  | badEscape
  | badNumber
  | numberTooLarge
  | badUtf8
  | control
  | keyNotString
  | loneSurrogate
  | brokenPair
  | trailingComma
  | trailingText
  | tooDeep
  | mismatch (m : Mismatch)
  /-- A value of the right type that the field does not admit. -/
  | refused

/-- In messages `null` stands for itself and decimals are written as in JSON text. -/
def wording : Wording := ⟨"null", Decimal.ofFloat layout⟩

/-- What is told of a problem before the place at which it is. -/
def Problem.message : Problem → String
  | .endOfList => "EOF while parsing a list"
  | .endOfObject => "EOF while parsing an object"
  | .endOfString => "EOF while parsing a string"
  | .endOfValue => "EOF while parsing a value"
  | .missingColon => "expected `:`"
  | .missingListComma => "expected `,` or `]`"
  | .missingObjectComma => "expected `,` or `\x7d`"
  | .unknownWord => "expected ident"
  | .missingValue => "expected value"
  | .badEscape => "invalid escape"
  | .badNumber => "invalid number"
  | .numberTooLarge => "number out of range"
  | .badUtf8 => "invalid unicode code point"
  | .control => "control character (\\u0000-\\u001F) found while parsing a string"
  | .keyNotString => "key must be a string"
  | .loneSurrogate => "lone leading surrogate in hex escape"
  | .brokenPair => "unexpected end of hex escape"
  | .trailingComma => "trailing comma"
  | .trailingText => "trailing characters"
  | .tooDeep => "recursion limit exceeded"
  | .mismatch m => m.message wording
  | .refused => "invalid value"

/-- Whether the text is JSON, as far as it was read, but not of the expected shape. -/
def Problem.isMismatch : Problem → Bool
  | .mismatch _ => true
  | .refused => true
  | _ => false

/-- Where inside a value a fault was found. -/
inductive Place where
  | member (name : String)
  | element (index : Nat)

/-- A problem with the place at which it was noticed and the way to it from the outermost value. -/
structure Fault where
  problem : Problem
  /-- Bytes not yet read. -/
  left : Nat
  path : List Place

/-- Members are joined by points, elements stand in brackets. -/
def pathText : List Place → String
  | [] => ""
  | [.member name] => name
  | .member name :: .element i :: rest => name ++ pathText (.element i :: rest)
  | .member name :: rest => name ++ "." ++ pathText rest
  | .element i :: .element j :: rest => s!"[{i}]" ++ pathText (.element j :: rest)
  | .element i :: [] => s!"[{i}]"
  | .element i :: rest => s!"[{i}]." ++ pathText rest

/-- The line, from 1, and the column, the number of bytes on it, at the end of `read`. -/
def lineAndColumn (read : List UInt8) : Nat × Nat :=
  read.foldl
    (fun (spot : Nat × Nat) b => if b = 10 then (spot.1 + 1, 0) else (spot.1, spot.2 + 1)) (1, 0)

/-- The message of a fault found in `text`, with its place. -/
def Fault.message (text : List UInt8) (f : Fault) : String :=
  let (line, column) := lineAndColumn (text.take (text.length - f.left))
  let what := f.problem.message ++ s!" at line {line} column {column}"
  if f.path.isEmpty then what else pathText f.path ++ ": " ++ what

end Teller.Json
