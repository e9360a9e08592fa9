/-!
# What is wrong with a YAML text

A problem stands at a place in the text and was noticed in the course of reading something that
starts at a place of its own:

    did not find expected ',' or ']' at line 3 column 1, while parsing a flow sequence at line 2 column 4
-/

namespace Teller.Yaml

/-- A place in a text, in characters; lines and columns count from zero. -/
structure Mark where
  index : Nat
  line : Nat
  column : Nat
deriving DecidableEq

def Mark.origin : Mark := ⟨0, 0, 0⟩

/-- Whether a mark is the place that nothing is said about. -/
def Mark.isFirst (m : Mark) : Bool := m.line = 0 && m.column = 0

/-- People count lines and columns from one. -/
def Mark.text (m : Mark) : String := s!"line {m.line + 1} column {m.column + 1}"

/-- What is read when a problem is noticed. -/
inductive Activity where
  | simpleKey
  | nextToken
  | directive
  | versionDirective
  | tagDirective
  | parsedTagDirective
  | tagDirectiveHandle
  | anchor
  | alias
  | tag
  | parsedTag
  | blockScalar
  | quotedScalar
  | escape
  | plainScalar
  | node
  | blockNode
  | flowNode
  | blockSequence
  | blockMapping
  | flowSequence
  | flowMapping

/-- The activity as the message tells it. -/
def Activity.text : Activity → String
  | .simpleKey => "while scanning a simple key"
  | .nextToken => "while scanning for the next token"
  | .directive => "while scanning a directive"
  | .versionDirective => "while scanning a %YAML directive"
  | .tagDirective => "while scanning a %TAG directive"
  | .parsedTagDirective => "while parsing a %TAG directive"
  | .tagDirectiveHandle => "while parsing a tag directive"
  | .anchor => "while scanning an anchor"
  | .alias => "while scanning an alias"
  | .tag => "while scanning a tag"
  | .parsedTag => "while parsing a tag"
  | .blockScalar => "while scanning a block scalar"
  | .quotedScalar => "while scanning a quoted scalar"
  | .escape => "while parsing a quoted scalar"
  | .plainScalar => "while scanning a plain scalar"
  | .node => "while parsing a node"
  | .blockNode => "while parsing a block node"
  | .flowNode => "while parsing a flow node"
  | .blockSequence => "while parsing a block collection"
  | .blockMapping => "while parsing a block mapping"
  | .flowSequence => "while parsing a flow sequence"
  | .flowMapping => "while parsing a flow mapping"

/-- What can be wrong with a text. -/
inductive Finding where
  | controlCharacter
  | keyWithoutColon
  | noToken
  | entryNotAllowed
  | keyNotAllowed
  | valueNotAllowed
  | unknownDirective
  | noDirectiveName
  | badDirectiveName
  | lineGoesOn
  | noVersionPoint
  | noVersionNumber
  | longVersionNumber
  | noBlank
  | noBlankOrBreak
  | badName
  | noAngleBracket
  | noExclamationMark
  | noTag
  | badOctet
  | badLeadingOctet
  | badTrailingOctet
  | zeroIndentation
  | tabInIndentation
  | documentMark
  | endOfText
  | unknownEscape
  | badHexadecimal
  | badCodePoint
  | colonInPlain
  | tabInPlain
  | noDocumentStart
  | undefinedHandle
  | noContent
  | noEntry
  | noKey
  | unclosedSequence
  | unclosedMapping
  | secondVersion
  | unknownVersion
  | secondHandle
  | unknownAnchor
  | secondDocument

/-- The finding as the message tells it. -/
def Finding.text : Finding → String
  | .controlCharacter => "control characters are not allowed"
  | .keyWithoutColon => "could not find expected ':'"
  | .noToken => "found character that cannot start any token"
  | .entryNotAllowed => "block sequence entries are not allowed in this context"
  | .keyNotAllowed => "mapping keys are not allowed in this context"
  | .valueNotAllowed => "mapping values are not allowed in this context"
  | .unknownDirective => "found unknown directive name"
  | .noDirectiveName => "could not find expected directive name"
  | .badDirectiveName => "found unexpected non-alphabetical character"
  | .lineGoesOn => "did not find expected comment or line break"
  | .noVersionPoint => "did not find expected digit or '.' character"
  | .noVersionNumber => "did not find expected version number"
  | .longVersionNumber => "found extremely long version number"
  | .noBlank => "did not find expected whitespace"
  | .noBlankOrBreak => "did not find expected whitespace or line break"
  | .badName => "did not find expected alphabetic or numeric character"
  | .noAngleBracket => "did not find the expected '>'"
  | .noExclamationMark => "did not find expected '!'"
  | .noTag => "did not find expected tag URI"
  | .badOctet => "did not find URI escaped octet"
  | .badLeadingOctet => "found an incorrect leading UTF-8 octet"
  | .badTrailingOctet => "found an incorrect trailing UTF-8 octet"
  | .zeroIndentation => "found an indentation indicator equal to 0"
  | .tabInIndentation => "found a tab character where an indentation space is expected"
  | .documentMark => "found unexpected document indicator"
  | .endOfText => "found unexpected end of stream"
  | .unknownEscape => "found unknown escape character"
  | .badHexadecimal => "did not find expected hexdecimal number"
  | .badCodePoint => "found invalid Unicode character escape code"
  | .colonInPlain => "found unexpected ':'"
  | .tabInPlain => "found a tab character that violates indentation"
  | .noDocumentStart => "did not find expected <document start>"
  | .undefinedHandle => "found undefined tag handle"
  | .noContent => "did not find expected node content"
  | .noEntry => "did not find expected '-' indicator"
  | .noKey => "did not find expected key"
  | .unclosedSequence => "did not find expected ',' or ']'"
  | .unclosedMapping => "did not find expected ',' or '\x7d'"
  | .secondVersion => "found duplicate %YAML directive"
  | .unknownVersion => "found incompatible YAML document"
  | .secondHandle => "found duplicate %TAG directive"
  | .unknownAnchor => "unknown anchor"
  | .secondDocument => "deserializing from YAML containing more than one document is not supported"

/-- A finding with its place, and the activity in the course of which it was found. -/
structure Problem where
  finding : Finding
  /-- The place of the problem, or the bytes before it where lines are not counted yet. -/
  place : Mark
  offset : Nat
  during : Option (Activity × Mark)

namespace Problem

/-- A problem without anything around it. -/
def lone (place : Mark) (finding : Finding) : Problem := ⟨finding, place, 0, none⟩

/-- The place of what surrounds a problem is told if it is not the problem's own. -/
def message (p : Problem) : String :=
  let place :=
    if !p.place.isFirst then " at " ++ p.place.text
    else if p.offset ≠ 0 then s!" at position {p.offset}"
    else ""
  let context := match p.during with
    | none => ""
    | some (activity, mark) =>
      let isElsewhere := mark.line ≠ p.place.line || mark.column ≠ p.place.column
      ", " ++ activity.text ++
        (if !mark.isFirst && isElsewhere then " at " ++ mark.text else "")
  p.finding.text ++ place ++ context

end Problem

end Teller.Yaml
