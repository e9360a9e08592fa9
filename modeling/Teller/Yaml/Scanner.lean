import Teller.Text.Ranges
import Teller.Text.Utf8
import Teller.Yaml.Token

/-!
# From characters to tokens

A scanner reads a text once, from left to right. A colon makes a key of the token before it, so the
start of a possible key is remembered until it is certain that no colon follows: the line ends, or
the key is too long. Tokens from there on are held back for so long.

A text that breaks the rules of YAML has the tokens that could be handed out before that was
noticed, and a problem.
-/

namespace Teller.Yaml

/-- Whether the character ends a line. -/
def isBreak (c : Char) : Bool :=
  c = '\r' || c = '\n' || c = '\x85' || c = '\u2028' || c = '\u2029'

def isBlank (c : Char) : Bool := c = ' ' || c = '\t'

/-- Whether a text ends here or goes on with a blank or a line break. -/
def endsWord (c? : Option Char) : Bool := c?.all fun c => isBlank c || isBreak c

/-- Whether a text or its line ends here. -/
def endsLine (c? : Option Char) : Bool := c?.all isBreak

def isDigit (c : Char) : Bool := '0' ≤ c && c ≤ '9'

/-- The value of a hexadecimal digit of either case. -/
def hexValue? (c : Char) : Option Nat :=
  if isDigit c then some (c.toNat - 48)
  else if 'a' ≤ c && c ≤ 'f' then some (c.toNat - 87)
  else if 'A' ≤ c && c ≤ 'F' then some (c.toNat - 55)
  else none

/-- Characters of names: letters, digits, `_` and `-`. -/
def isNameChar (c : Char) : Bool :=
  isDigit c || ('a' ≤ c && c ≤ 'z') || ('A' ≤ c && c ≤ 'Z') || c = '_' || c = '-'

/-- The characters that a text can consist of. -/
def admitted : Text.Ranges := [
  (0x9, 0xa), (0xd, 0xd), (0x20, 0x7e), (0x85, 0x85), (0xa0, 0xd7ff), (0xe000, 0xfefe),
  (0xff00, 0xfffd), (0x10000, 0x10ffff)]

/-- A place where a key may have started, and the number of its first token. -/
structure PossibleKey where
  number : Nat
  /-- Whether the place admits nothing but a key. -/
  required : Bool
  mark : Mark

/-- The text that is left, the tokens found in it so far, and what the next ones depend on. -/
structure Scanner where
  rest : List Char
  mark : Mark
  /-- Tokens that were scanned and not handed out, and how many were handed out before. -/
  queue : List Lexeme
  given : Nat
  /-- The column of the innermost block collection, and those around it. -/
  indent : Int
  indents : List Int
  keyAllowed : Bool
  /-- One place for each flow collection around, the innermost first, and one for the block. -/
  keys : List (Option PossibleKey)
  ended : Bool

/-- Steps that fail where the text breaks the rules. -/
abbrev Scan := StateT Scanner (Except Problem)

namespace Scanner

/-- Nothing has been scanned yet. -/
def start (text : List Char) : Scanner :=
  ⟨text, .origin, [], 0, -1, [], true, [none], false⟩

/-- Whether the scanner is inside brackets or braces. -/
def isInFlow (s : Scanner) : Bool := s.keys.length > 1

def char? (s : Scanner) (n : Nat) : Option Char := s.rest[n]?

/-- The number of the next token. -/
def nextNumber (s : Scanner) : Nat := s.given + s.queue.length

end Scanner

namespace Scan

variable {α : Type}

def here : Scan Mark := do return (← get).mark

/-- Fails here, in the course of an activity that started at `from?`. -/
def fail (finding : Finding) (activity : Activity) (since : Mark) : Scan α := do
  throw ⟨finding, ← here, 0, some (activity, since)⟩

/-- The failure of a text that is wrong by itself, whatever was being scanned. -/
def failAlone (finding : Finding) : Scan α := do throw (.lone (← here) finding)

def char? (n : Nat) : Scan (Option Char) := do return (← get).char? n

/-- Whether the next character is `c`. -/
def sees (c : Char) : Scan Bool := do return (← char? 0) = some c

def column : Scan Nat := do return (← here).column

def isInFlow : Scan Bool := do return (← get).isInFlow

/-- Passes characters that are no line breaks. -/
def skip (n : Nat) : Scan Unit := modify fun s =>
  { s with rest := s.rest.drop n, mark := ⟨s.mark.index + n, s.mark.line, s.mark.column + n⟩ }

/-- Reads characters of one line. -/
def takeWhile (p : Char → Bool) : Scan (List Char) := do
  let taken := (← get).rest.takeWhile p
  skip taken.length
  return taken

/-- Skips characters as long as they satisfy the condition. -/
def skipWhile (p : Char → Bool) : Scan Unit := do let _ ← takeWhile p

/-- Passes a line break of `n` characters. -/
def passBreak (n : Nat) : Scan Unit := modify fun s =>
  { s with rest := s.rest.drop n, mark := ⟨s.mark.index + n, s.mark.line + 1, 0⟩ }

/-- Reads a line break, if there is one; what it stands for in a scalar. -/
def lineBreak : Scan (List Char) := do
  match (← get).rest with
  | '\r' :: '\n' :: _ => passBreak 2; return ['\n']
  | c :: _ =>
    if c = '\r' ∨ c = '\n' ∨ c = '\x85' then passBreak 1; return ['\n']
    else if c = '\u2028' ∨ c = '\u2029' then passBreak 1; return [c]
    else return []
  | [] => return []

/-- Queues a token that started at `start` and ends here. -/
def enqueue (start : Mark) (t : Token) : Scan Unit := modify fun s =>
  { s with queue := s.queue ++ [⟨t, start, s.mark⟩] }

/-- Queues a token of `n` characters. -/
def sign (n : Nat) (t : Token) : Scan Unit := do
  let start ← here
  skip n
  enqueue start t

/-- Puts a token without an extent before the one with this number. -/
def insertAt (number : Nat) (mark : Mark) (t : Token) : Scan Unit := modify fun s =>
  let (before, after) := s.queue.splitAt (number - s.given)
  { s with queue := before ++ ⟨t, mark, mark⟩ :: after }

/-- Whether a key may come next. -/
def allowKey (allowed : Bool) : Scan Unit := modify fun s => { s with keyAllowed := allowed }

/-! ## Possible keys -/

/-- The failure of a key that is not followed by a colon where it has to be. -/
def failKey (k : PossibleKey) : Scan α := fail .keyWithoutColon .simpleKey k.mark

/-- Forgets the places where a key has become impossible; fails if one was required. -/
def dropStaleKeys : Scan Unit := do
  let s ← get
  let isStale (k : PossibleKey) : Bool :=
    k.mark.line < s.mark.line || k.mark.index + 1024 < s.mark.index
  match (s.keys.reverse.filterMap id).find? fun k => isStale k && k.required with
  | some k => failKey k
  | none => set { s with keys := s.keys.map (Option.filter fun k => !isStale k) }

/-- Gives up the key that may have started in the current collection. -/
def dropKey : Scan Unit := do
  let s ← get
  match s.keys with
  | some k :: outer => if k.required then failKey k else set { s with keys := none :: outer }
  | _ => return ()

/-- Remembers that a key may start here. -/
def saveKey : Scan Unit := do
  let s ← get
  if s.keyAllowed then
    let required := !s.isInFlow && s.indent = s.mark.column
    dropKey
    modify fun s => { s with keys := some ⟨s.nextNumber, required, s.mark⟩ :: s.keys.drop 1 }

/-! ## Indentation -/

/-- Opens a block collection at a mark beyond the current column. -/
def indentTo (mark : Mark) (opening : Token) (number : Nat) : Scan Unit := do
  let s ← get
  if !s.isInFlow ∧ s.indent < mark.column then
    set { s with indent := mark.column, indents := s.indent :: s.indents }
    insertAt number mark opening

/-- Closes the block collections that start beyond a column. -/
def unindentTo (column : Int) : Scan Unit := modify fun s =>
  if s.isInFlow then s
  else
    let closed := (s.indent :: s.indents).takeWhile (column < ·)
    let left := (s.indent :: s.indents).drop closed.length
    { s with
      queue := s.queue ++ closed.map fun _ => ⟨.blockEnd, s.mark, s.mark⟩
      indent := left.headD (-1)
      indents := left.tail }

/-! ## Blanks between tokens -/

/-- Passes blanks, comments and line breaks. A tab is no indentation. -/
def toNextToken : Nat → Scan Unit
  | 0 => return ()
  | fuel + 1 => do
    let s ← get
    let tabs := s.isInFlow || !s.keyAllowed
    skipWhile fun c => c = ' ' || (tabs && c = '\t')
    if ← sees '#' then skipWhile (!isBreak ·)
    if (← char? 0).any isBreak then
      let _ ← lineBreak
      if !s.isInFlow then allowKey true
      toNextToken fuel

/-- The end of a line: blanks, a comment and the line break. -/
def restOfLine (activity : Activity) (since : Mark) : Scan Unit := do
  skipWhile isBlank
  if ← sees '#' then skipWhile (!isBreak ·)
  if !endsLine (← char? 0) then fail .lineGoesOn activity since
  let _ ← lineBreak

/-! ## Directives, anchors and tags -/

/-- A part of a version number. -/
def versionNumber (since : Mark) : Scan Nat := do
  let digits := (← get).rest.takeWhile isDigit
  if 9 < digits.length then
    skip 9
    fail .longVersionNumber .versionDirective since
  if digits.isEmpty then fail .noVersionNumber .versionDirective since
  skip digits.length
  return digits.foldl (fun n c => n * 10 + (c.toNat - 48)) 0

/-- A number of hexadecimal digits. -/
def hex? (count : Nat) : Scan (Option Nat) := do
  let digits := (← get).rest.take count
  if digits.length < count then return none
  match digits.mapM hexValue? with
  | some values => skip count; return some (values.foldl (fun n v => n * 16 + v) 0)
  | none => return none

/-- A handle `!`, `!!` or `!name!`; in a tag also the start `!name` of one without a handle. -/
def tagHandle (inDirective : Bool) (since : Mark) : Scan String := do
  if !(← sees '!') then
    fail .noExclamationMark (if inDirective then .directive else .tag) since
  skip 1
  let name ← takeWhile isNameChar
  if ← sees '!' then
    skip 1
    return String.ofList ('!' :: name ++ ['!'])
  else if inDirective ∧ !name.isEmpty then fail .noExclamationMark .tagDirectiveHandle since
  else return String.ofList ('!' :: name)

/-- The characters of tags besides those of names. -/
def tagPunctuation : List Char := ";/?:@&=+$.%!~*'()".toList

/-- A byte written as `%` and two digits. -/
def octet (activity : Activity) (since : Mark) : Scan Nat := do
  if !(← sees '%') then fail .badOctet activity since
  let start ← get
  skip 1
  match ← hex? 2 with
  | some b => return b
  | none =>
    set start
    fail .badOctet activity since

/-- The bytes of a character after the first, which gave `value`. -/
def trailingOctets (activity : Activity) (since : Mark) : Nat → Nat → Scan Nat
  | 0, value => return value
  | n + 1, value => do
    let b ← octet activity since
    if b / 64 ≠ 2 then fail .badTrailingOctet activity since
    trailingOctets activity since n (value * 64 + b % 64)

/-- A character written as the bytes of its UTF-8 form, the first of which tells their number. -/
def escapedChar (activity : Activity) (since : Mark) : Scan Char := do
  let first ← octet activity since
  if first < 0x80 then return Char.ofNat first
  else if first / 32 = 6 then return Char.ofNat (← trailingOctets activity since 1 (first % 32))
  else if first / 16 = 14 then return Char.ofNat (← trailingOctets activity since 2 (first % 16))
  else if first / 8 = 30 then return Char.ofNat (← trailingOctets activity since 3 (first % 8))
  else fail .badLeadingOctet activity since

/-- The characters of a tag or of the head that a directive names; `brackets` admits `,[]`. -/
def tagText (brackets : Bool) (activity : Activity) (since : Mark) : Nat → Scan (List Char)
  | 0 => return []
  | fuel + 1 => do
    match ← char? 0 with
    | none => return []
    | some c =>
      if c = '%' then
        let c ← escapedChar activity since
        return c :: (← tagText brackets activity since fuel)
      else if isNameChar c || tagPunctuation.contains c
          || (brackets && ",[]".toList.contains c) then
        skip 1
        return c :: (← tagText brackets activity since fuel)
      else return []

/-- Such characters after `head`; there must be one in all. -/
def tagRest (head : List Char) (brackets : Bool) (activity : Activity) (since : Mark) :
    Scan String := do
  let chars ← tagText brackets activity since ((← get).rest.length + 1)
  if head.isEmpty ∧ chars.isEmpty then fail .noTag activity since
  return String.ofList (head.drop 1 ++ chars)

/-- A line that begins with a percent sign. -/
def directive : Scan Token := do
  let since ← here
  skip 1
  let name ← takeWhile isNameChar
  if name.isEmpty then fail .noDirectiveName .directive since
  if !endsWord (← char? 0) then fail .badDirectiveName .directive since
  let token ←
    if name = "YAML".toList then do
      skipWhile isBlank
      let major ← versionNumber since
      if !(← sees '.') then fail .noVersionPoint .versionDirective since
      skip 1
      pure (.versionDirective major (← versionNumber since))
    else if name = "TAG".toList then do
      skipWhile isBlank
      let handle ← tagHandle true since
      if !(← char? 0).any isBlank then fail .noBlank .tagDirective since
      skipWhile isBlank
      let head ← tagRest [] true .parsedTagDirective since
      if !endsWord (← char? 0) then fail .noBlankOrBreak .tagDirective since
      pure (.tagDirective handle head)
    else fail .unknownDirective .directive since
  restOfLine .directive since
  return token

/-- The name after `&` or `*`. -/
def anchorName (activity : Activity) : Scan String := do
  let since ← here
  skip 1
  let name ← takeWhile isNameChar
  let after ← char? 0
  if name.isEmpty || !(endsWord after || after.any fun c => "?:,]\x7d%@`".toList.contains c) then
    fail .badName activity since
  return String.ofList name

/-- A tag, from the exclamation mark on. -/
def tag : Scan Token := do
  let since ← here
  let token ←
    if (← char? 1) = some '<' then do
      skip 2
      let suffix ← tagRest [] true .parsedTag since
      if !(← sees '>') then fail .noAngleBracket .tag since
      skip 1
      pure (.tag "" suffix)
    else do
      let handle ← tagHandle false since
      if handle.length > 1 ∧ handle.endsWith "!" then
        pure (.tag handle (← tagRest [] false .parsedTag since))
      else
        let suffix ← tagRest handle.toList false .parsedTag since
        pure (if suffix.isEmpty then .tag "" "!" else .tag "!" suffix)
  if !endsWord (← char? 0) && !((← isInFlow) && (← sees ',')) then
    fail .noBlankOrBreak .tag since
  return token

/-! ## Scalars -/

/-- Blanks and line breaks between two pieces of a scalar. -/
structure Gap where
  /-- Whether a line break was passed. -/
  folds : Bool
  blanks : List Char
  leading : List Char
  trailing : List Char

def Gap.none : Gap := ⟨false, [], [], []⟩

/-- What a gap leaves in the scalar: one line break becomes a space, more lose the first. -/
def Gap.text (g : Gap) : List Char :=
  if !g.folds then g.blanks
  else if g.leading = ['\n'] then (if g.trailing.isEmpty then [' '] else g.trailing)
  else g.leading ++ g.trailing

/-- Reads on in a gap of a scalar that started at `since`. After a line break no tab may stand left
of the column `floor`. -/
def gap (floor : Nat) (since : Mark) : Nat → Gap → Scan Gap
  | 0, g => return g
  | fuel + 1, g => do
    match ← char? 0 with
    | none => return g
    | some c =>
      if isBlank c then
        if g.folds then
          if c = '\t' ∧ (← column) < floor then fail .tabInPlain .plainScalar since
          skip 1
          gap floor since fuel g
        else
          skip 1
          gap floor since fuel { g with blanks := g.blanks ++ [c] }
      else if isBreak c then
        let b ← lineBreak
        if g.folds then gap floor since fuel { g with trailing := g.trailing ++ b }
        else gap floor since fuel ⟨true, [], b, []⟩
      else return g

/-- Whether a line starts with the mark of a document's start or end. -/
def atDocumentMark : Scan Bool := do
  let s ← get
  let mark := s.rest.take 3
  return s.mark.column = 0 && (mark = "---".toList || mark = "...".toList) && endsWord (s.char? 3)

/-- Whether a plain scalar ends before `c`, which `next?` follows. -/
def endsPlain (inFlow : Bool) (c : Char) (next? : Option Char) : Bool :=
  (c = ':' && endsWord next?) || (inFlow && ",[]\x7b\x7d".toList.contains c)

/-- The characters of a plain scalar up to a blank or its end. -/
def plainPiece (inFlow : Bool) (since : Mark) : Nat → Scan (List Char)
  | 0 => return []
  | fuel + 1 => do
    match ← char? 0 with
    | none => return []
    | some c =>
      let next? ← char? 1
      if isBlank c || isBreak c then return []
      else if inFlow && c = ':' && next?.any fun d => ",?[]\x7b\x7d".toList.contains d then
        fail .colonInPlain .plainScalar since
      else if endsPlain inFlow c next? then return []
      else
        skip 1
        return c :: (← plainPiece inFlow since fuel)

/-- A plain scalar from here on, after a gap: its characters, its end, and whether a line break was
passed after it. -/
def plainFrom (since : Mark) : Nat → Gap → Mark → Scan (List Char × Mark × Bool)
  | 0, g, stop => return ([], stop, g.folds)
  | fuel + 1, g, stop => do
    let s ← get
    if (← atDocumentMark) || (← sees '#') then return ([], stop, g.folds)
    let piece ← plainPiece s.isInFlow since (s.rest.length + 1)
    let read := if piece.isEmpty then [] else g.text ++ piece
    let stop ← if piece.isEmpty then pure stop else here
    let g := if piece.isEmpty then g else .none
    if !(← char? 0).any fun c => isBlank c || isBreak c then return (read, stop, g.folds)
    let floor := (s.indent + 1).toNat
    let g ← gap floor since (s.rest.length + 1) g
    if !s.isInFlow && (← column) < floor then return (read, stop, g.folds)
    let (more, stop, folds) ← plainFrom since fuel g stop
    return (read ++ more, stop, folds)

/-- A plain scalar. If it goes on over more than one line, a key may come next. -/
def plain : Scan Unit := do
  let start ← here
  let (text, stop, folds) ← plainFrom start ((← get).rest.length + 1) .none start
  modify fun s =>
    { s with queue := s.queue ++ [⟨.scalar .plain (String.ofList text), start, stop⟩] }
  if folds then allowKey true

/-- What the character after a backslash stands for. -/
def shortEscapes : List (Char × Char) := [
  ('0', '\x00'), ('a', '\x07'), ('b', '\x08'), ('t', '\t'), ('\t', '\t'), ('n', '\n'),
  ('v', '\x0b'), ('f', '\x0c'), ('r', '\r'), ('e', '\x1b'), (' ', ' '), ('"', '"'), ('/', '/'),
  ('\\', '\\'), ('N', '\x85'), ('_', '\xa0'), ('L', '\u2028'), ('P', '\u2029')]

/-- The escapes with a number of hexadecimal digits. -/
def longEscapes : List (Char × Nat) := [('x', 2), ('u', 4), ('U', 8)]

/-- Whether the number is one of a character, surrogates being none. -/
def isCodePoint (n : Nat) : Bool := n < 0xD800 || (0xDFFF < n && n ≤ 0x10FFFF)

/-- An escaped character of a scalar that started at `since`; its backslash comes next. -/
def escape (since : Mark) : Scan Char := do
  let c ← char? 1
  match c.bind fun c => shortEscapes.lookup c, c.bind fun c => longEscapes.lookup c with
  | some plain, _ => skip 2; return plain
  | none, some digits =>
    skip 2
    let afterLetter ← get
    match ← hex? digits with
    | none => fail .badHexadecimal .escape since
    | some value =>
      if isCodePoint value then return Char.ofNat value
      else
        set afterLetter
        fail .badCodePoint .escape since
  | none, none => fail .unknownEscape .escape since

/-- The characters of a quoted scalar up to a blank or its closing quote, and whether an escaped
line break ended them. -/
def quotedPiece (quote : Char) (since : Mark) : Nat → Scan (List Char × Bool)
  | 0 => return ([], false)
  | fuel + 1 => do
    match ← char? 0 with
    | none => return ([], false)
    | some c =>
      let next? ← char? 1
      let goOn (c : Char) : Scan (List Char × Bool) := do
        let (more, broken) ← quotedPiece quote since fuel
        return (c :: more, broken)
      if isBlank c || isBreak c then return ([], false)
      else if quote = '\'' && c = '\'' && next? = some '\'' then
        skip 2
        goOn '\''
      else if c = quote then return ([], false)
      else if quote = '"' && c = '\\' && next?.any isBreak then
        skip 1
        let _ ← lineBreak
        return ([], true)
      else if quote = '"' && c = '\\' then goOn (← escape since)
      else
        skip 1
        goOn c

/-- The rest of a quoted scalar and its closing quote. -/
def quotedFrom (quote : Char) (since : Mark) : Nat → Scan (List Char)
  | 0 => fail .endOfText .quotedScalar since
  | fuel + 1 => do
    if ← atDocumentMark then fail .documentMark .quotedScalar since
    if (← char? 0).isNone then fail .endOfText .quotedScalar since
    let fuelInside := (← get).rest.length + 1
    let (piece, broken) ← quotedPiece quote since fuelInside
    if ← sees quote then
      skip 1
      return piece
    let g ← gap 0 since fuelInside ⟨broken, [], [], []⟩
    return piece ++ g.text ++ (← quotedFrom quote since fuel)

/-- A scalar in quotes, which are looked at when it is read. -/
def quoted (quote : Char) : Scan Token := do
  let since ← here
  skip 1
  return .scalar .quoted (String.ofList (← quotedFrom quote since ((← get).rest.length + 1)))

/-- What becomes of the line breaks at the end of a block scalar. -/
inductive Chomping where
  | strip
  | clip
  | keep
deriving DecidableEq

/-- What becomes of the line breaks at the end of a block scalar. -/
def chomping? : Char → Option Chomping
  | '+' => some .keep
  | '-' => some .strip
  | _ => none

/-- The digit in the head of a block scalar, if there is one. -/
def increment (since : Mark) : Scan Nat := do
  match ← char? 0 with
  | some c =>
    if c = '0' then fail .zeroIndentation .blockScalar since
    if isDigit c then
      skip 1
      return c.toNat - 48
    else return 0
  | none => return 0

/-- The chomping and the indentation in the head of a block scalar, in either order. -/
def blockHead (since : Mark) : Scan (Chomping × Nat) := do
  match (← char? 0).bind chomping? with
  | some c =>
    skip 1
    return (c, ← increment since)
  | none =>
    let n ← increment since
    if n = 0 then return (.clip, 0)
    match (← char? 0).bind chomping? with
    | some c => skip 1; return (c, n)
    | none => return (.clip, n)

/-- Empty lines and the indentation after them; the greatest column reached. An indentation of
zero is not known yet. -/
def blockBreaks (indent : Nat) (since : Mark) : Nat → List Char → Nat → Scan (List Char × Nat)
  | 0, breaks, reached => return (breaks, reached)
  | fuel + 1, breaks, reached => do
    let known := indent ≠ 0
    let s ← get
    let spaces := (s.rest.takeWhile (· = ' ')).length
    skip (if known then min spaces (indent - s.mark.column) else spaces)
    let column ← column
    let reached := max reached column
    if (!known || column < indent) && (← sees '\t') then
      fail .tabInIndentation .blockScalar since
    if (← char? 0).any isBreak then
      let b ← lineBreak
      blockBreaks indent since fuel (breaks ++ b) reached
    else return (breaks, reached)

/-- The lines of a block scalar, each with its line break, after `breaks` empty ones. -/
def blockLines (literal : Bool) (indent : Nat) (since : Mark) :
    Nat → List Char → List Char → Bool → Scan (List Char × List Char × List Char)
  | 0, leading, breaks, _ => return ([], leading, breaks)
  | fuel + 1, leading, breaks, afterBlank => do
    let s ← get
    if s.mark.column ≠ indent || s.rest.isEmpty then return ([], leading, breaks)
    let startsBlank := (s.char? 0).any isBlank
    let joint :=
      if !literal && leading = ['\n'] && !afterBlank && !startsBlank then
        (if breaks.isEmpty then [' '] else []) ++ breaks
      else leading ++ breaks
    let line ← takeWhile (!isBreak ·)
    let leading ← lineBreak
    let (breaks, _) ← blockBreaks indent since (s.rest.length + 1) [] 0
    let (more, leading, breaks) ← blockLines literal indent since fuel leading breaks startsBlank
    return (joint ++ line ++ more, leading, breaks)

/-- A literal or folded scalar, from its mark on. -/
def block (literal : Bool) : Scan Token := do
  let since ← here
  skip 1
  let (chomping, increment) ← blockHead since
  restOfLine .blockScalar since
  let s ← get
  let fuel := s.rest.length + 1
  let given := if increment = 0 then 0 else (max s.indent 0).toNat + increment
  let (breaks, reached) ← blockBreaks given since fuel [] 0
  let indent := if given ≠ 0 then given else max (max reached (s.indent + 1).toNat) 1
  let (text, leading, breaks) ← blockLines literal indent since fuel [] breaks false
  let ending := match chomping with
    | .strip => []
    | .clip => leading
    | .keep => leading ++ breaks
  return .scalar (if literal then .literal else .folded) (String.ofList (text ++ ending))

/-! ## The next token -/

/-- Closes every block collection; no key can be open across. -/
def leaveBlocks : Scan Unit := do
  unindentTo (-1)
  dropKey
  allowKey false

/-- A bracket or brace opens a collection, in which a key may come first. -/
def flowOpening (t : Token) : Scan Unit := do
  saveKey
  modify fun s => { s with keys := none :: s.keys, keyAllowed := true }
  sign 1 t

/-- A bracket or brace closes the innermost collection. -/
def flowClosing (t : Token) : Scan Unit := do
  dropKey
  modify fun s => { s with keys := if s.isInFlow then s.keys.tail else s.keys, keyAllowed := false }
  sign 1 t

/-- An entry or a key that is announced by a sign of its own. -/
def announced (opening t : Token) (refusal : Finding) (keyAfter : Bool) : Scan Unit := do
  let s ← get
  if !s.isInFlow then
    if !s.keyAllowed then failAlone refusal
    indentTo s.mark opening s.nextNumber
  dropKey
  allowKey keyAfter
  sign 1 t

/-- The colon between a key and its value. -/
def valueSign : Scan Unit := do
  let s ← get
  match s.keys with
  | some k :: outer =>
    set { s with keys := none :: outer }
    insertAt k.number k.mark .key
    indentTo k.mark .blockMappingStart k.number
    allowKey false
  | _ =>
    if !s.isInFlow then
      if !s.keyAllowed then failAlone .valueNotAllowed
      indentTo s.mark .blockMappingStart s.nextNumber
    allowKey (!s.isInFlow)
  sign 1 .value

/-- A token that may start a key. -/
def keyed (scan : Scan Token) : Scan Unit := do
  saveKey
  allowKey false
  let start ← here
  enqueue start (← scan)

/-- A literal or folded scalar. No key can be before it on its line. -/
def blockScalar (literal : Bool) : Scan Unit := do
  dropKey
  allowKey true
  let start ← here
  enqueue start (← block literal)

/-- The signs that no plain scalar starts with. -/
def indicators : List Char := "-?:,[]\x7b\x7d#&*!|>'\"%@`".toList

/-- Whether the character begins a plain scalar, given the one after it. -/
def startsPlain (inFlow : Bool) (c : Char) (next? : Option Char) : Bool :=
  !(isBlank c || isBreak c || indicators.contains c) || (c = '-' && !next?.any isBlank)
    || (!inFlow && (c = '?' || c = ':') && !endsWord next?)

/-- The end of the text, which is the start of a line. -/
def streamEnd : Scan Unit := do
  modify fun s => { s with
    mark := if s.mark.column = 0 then s.mark else ⟨s.mark.index, s.mark.line + 1, 0⟩ }
  leaveBlocks
  modify fun s => { s with ended := true }
  sign 0 .streamEnd

/-- The token that starts with `c`, where there is one. -/
def tokenAt (c : Char) : Scan Unit := do
  let s ← get
  let inFlow := s.isInFlow
  let next? := s.char? 1
  if s.mark.column = 0 ∧ c = '%' then
    leaveBlocks
    let start ← here
    enqueue start (← directive)
  else if ← atDocumentMark then
    leaveBlocks
    sign 3 (if c = '-' then .documentStart else .documentEnd)
  else if c = '[' then flowOpening .flowSequenceStart
  else if c = '\x7b' then flowOpening .flowMappingStart
  else if c = ']' then flowClosing .flowSequenceEnd
  else if c = '\x7d' then flowClosing .flowMappingEnd
  else if c = ',' then
    dropKey
    allowKey true
    sign 1 .flowEntry
  else if c = '-' ∧ endsWord next? then
    announced .blockSequenceStart .blockEntry .entryNotAllowed true
  else if c = '?' ∧ (inFlow ∨ endsWord next?) then
    announced .blockMappingStart .key .keyNotAllowed (!inFlow)
  else if c = ':' ∧ (inFlow ∨ endsWord next?) then valueSign
  else if c = '*' then keyed do return .alias (← anchorName .alias)
  else if c = '&' then keyed do return .anchor (← anchorName .anchor)
  else if c = '!' then keyed tag
  else if c = '|' ∧ !inFlow then blockScalar true
  else if c = '>' ∧ !inFlow then blockScalar false
  else if c = '\'' ∨ c = '"' then keyed (quoted c)
  else if startsPlain inFlow c next? then
    saveKey
    allowKey false
    plain
  else fail .noToken .nextToken s.mark

/-- Scans on until at least one token more is in the queue. -/
def next : Scan Unit := do
  toNextToken ((← get).rest.length + 1)
  dropStaleKeys
  unindentTo (← column)
  match ← char? 0 with
  | none => streamEnd
  | some c => tokenAt c

end Scan

/-- Whether the first token of the queue may still have to give way to a key. -/
def Scanner.isHeldBack (s : Scanner) : Bool :=
  s.queue.isEmpty || s.keys.any fun k => k.any fun k => k.number = s.given

/-- The tokens of a text that could be handed out, and the problem after them if there is one. -/
structure Tokens where
  list : List Lexeme
  problem : Option Problem

/-- Hands out tokens in at most `fuel` steps. -/
def Scanner.tokens : Nat → Scanner → Tokens
  | 0, _ => ⟨[], none⟩
  | fuel + 1, s =>
    match Scan.dropStaleKeys.run s with
    | .error p => ⟨[], some p⟩
    | .ok (_, s) =>
      if s.isHeldBack then
        if s.ended then ⟨[], none⟩
        else
          match Scan.next.run s with
          | .error p => ⟨[], some p⟩
          | .ok (_, s) => tokens fuel s
      else
        match s.queue with
        | [] => ⟨[], none⟩
        | t :: rest =>
          let more := tokens fuel { s with queue := rest, given := s.given + 1 }
          ⟨t :: more.list, more.problem⟩

/-- The tokens of a text. A byte order mark at its front counts for nothing. -/
def Tokens.ofText (text : String) : Tokens :=
  let chars := match text.toList with
    | '\ufeff' :: rest => rest
    | chars => chars
  let good := chars.takeWhile admitted.has
  if good.length = chars.length then (Scanner.start chars).tokens (8 * (chars.length + 4))
  else
    let bytes := (text.toList.take (text.length - chars.length) ++ good).flatMap Utf8.encodeChar
    ⟨[], some ⟨.controlCharacter, .origin, bytes.length, none⟩⟩

end Teller.Yaml
