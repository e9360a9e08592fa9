import Teller.Gateway.Constraint
import Teller.Text.DomainName

/-!
# Mail addresses

A mail address is a local part and a domain with an at sign between them. The local part is 1 to 64
characters, ASCII letters, digits and marks. The domain is labels of letters, digits and inner
hyphens joined by points, or ends in an address in brackets; a domain in other characters is judged
by its ASCII spelling.
-/

namespace Teller.Gateway.Email

/-- ASCII letters of either case, and the two characters whose lower or upper case is one. -/
def isLetter (c : Char) : Bool := c.isAlpha || c = 'ſ' || c = '\u212a'

/-- Whether the character can stand before the at sign. -/
def isLocalChar (c : Char) : Bool :=
  isLetter c || c.isDigit || ".!#$%&'*+/=?^_`\x7b|\x7d~-".toList.contains c

/-- Whether the character can begin and end a label. -/
def isLabelEdge (c : Char) : Bool := isLetter c || c.isDigit

/-- One to 63 letters, digits and hyphens, no hyphen at either end. -/
def isLabel (label : List Char) : Bool :=
  label.length ≤ 63 && label.all (fun c => isLabelEdge c || c = '-')
    && label.head?.any isLabelEdge && label.getLast?.any isLabelEdge

/-- The parts of a text between occurrences of a separator. -/
def splitAll (sep : Char) : List Char → List (List Char)
  | [] => [[]]
  | c :: rest =>
    match splitAll sep rest with
    | [] => [[]]
    | part :: parts => if c = sep then [] :: part :: parts else (c :: part) :: parts

/-! ## Addresses in brackets -/

/-- A number from 0 to 255 without leading zeros. -/
def isOctet (digits : List Char) : Bool :=
  !digits.isEmpty && digits.length ≤ 3 && digits.all Char.isDigit
    && (digits.length = 1 || digits.head? ≠ some '0')
    && digits.foldl (fun n c => n * 10 + (c.toNat - 48)) 0 ≤ 255

/-- Four octets with points between them. -/
def isIPv4 (text : List Char) : Bool :=
  let parts := splitAll '.' text
  parts.length = 4 && parts.all isOctet

/-- One to four hexadecimal digits. -/
def isHexGroup (group : List Char) : Bool :=
  !group.isEmpty && group.length ≤ 4
    && group.all fun c => c.isDigit || ('a' ≤ c.toLower && c.toLower ≤ 'f')

/-- How many 16-bit groups a list of groups fills; the last may be an IPv4 address of two. -/
def groupCount? : List (List Char) → Option Nat
  | [] => some 0
  | [last] => if isHexGroup last then some 1 else if isIPv4 last then some 2 else none
  | g :: rest => if isHexGroup g then (groupCount? rest).map (· + 1) else none

/-- The places where a text holds two colons in a row, as what stands before and after them. -/
def doubleColons : List Char → List (List Char × List Char)
  | ':' :: ':' :: rest =>
    ([], rest) :: (doubleColons (':' :: rest)).map fun (before, after) => (':' :: before, after)
  | c :: rest => (doubleColons rest).map fun (before, after) => (c :: before, after)
  | [] => []

/-- The groups of an address, which colons separate. -/
def groups (text : List Char) : List (List Char) := if text.isEmpty then [] else splitAll ':' text

/-- Eight groups, or fewer with two colons for those left out. -/
def isIPv6 (text : List Char) : Bool :=
  match doubleColons text with
  | [] => groupCount? (groups text) = some 8
  | (before, after) :: _ =>
    let front := groups before
    front.all isHexGroup && (groupCount? (groups after)).any fun n => front.length + n ≤ 7

/-- Whether a domain ends in an address in brackets. -/
def endsInAddress (domain : List Char) : Bool :=
  match domain.reverse with
  | ']' :: rest =>
    let (inner, before) := rest.span fun c => c.isDigit || c = ':' || c = '.'
      || ('a' ≤ c.toLower && c.toLower ≤ 'f')
    before.head? = some '[' && (isIPv4 inner.reverse || isIPv6 inner.reverse)
  | _ => false

/-- Labels with points between them, or an address in brackets at the end. -/
def isAsciiDomain (domain : List Char) : Bool :=
  (splitAll '.' domain).all isLabel || endsInAddress domain

/-- A domain that is one as it stands or as it is spelled in ASCII. -/
def isDomain (domain : List Char) : Bool :=
  let labels := splitAll '.' (domain.flatMap Text.DomainName.fold)
  isAsciiDomain domain || (Text.DomainName.toAscii? labels).any fun ascii => ascii.all isLabel

/-- A text cut at its last `@`. -/
def cut? (text : List Char) : Option (List Char × List Char) :=
  match text.reverse.span (· ≠ '@') with
  | (_, []) => none
  | (domain, _ :: user) => some (user.reverse, domain.reverse)

/-- Whether the text is a mail address. -/
def isAddress (s : String) : Bool :=
  match cut? s.toList with
  | none => false
  | some (user, domain) =>
    !user.isEmpty && user.length ≤ 64 && user.all isLocalChar && domain.length ≤ 255
      && isDomain domain

/-- The text has to be a mail address. -/
def check (s : String) : List Violation := if isAddress s then [] else [.email s]

end Teller.Gateway.Email
