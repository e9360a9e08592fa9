import Teller.Gateway.Headers

/-!
# Media types

    type / subtype ( + suffix ) ( ; name = value )*

A body is taken as JSON if its media type is `application/json`, or has `json` as its suffix.
Parameters must be well-formed and are otherwise ignored.
-/

namespace Teller.Gateway.MediaType

/-- Whether the character can stand in a type, a suffix or a name. -/
def isToken (c : Char) : Bool := c.isAlphanum || "!#$%&'*+-.^_`|~".toList.contains c

/-- A character inside a quoted parameter value. The first one may also be a quote. -/
def isQuotable (c : Char) : Bool := 0x20 ≤ c.toNat && c.toNat < 0x7f && c ≠ '"'

/-- After a quoted value: blanks, then the next parameter or the end. -/
def afterQuote (text : List Char) : Option (List Char) :=
  match text.dropWhile (· = ' ') with
  | [] => some []
  | ';' :: rest => some rest
  | _ => none

/-- What follows one parameter. -/
def parameter (text : List Char) : Option (List Char) :=
  match text.span isToken with
  | (_ :: _, '=' :: '"' :: first :: value) =>
    if isQuotable first || first = '"' then
      match value.span isQuotable with
      | (_, '"' :: rest) => afterQuote rest
      | _ => none
    else none
  | (_ :: _, '=' :: value) =>
    match value.span isToken with
    | (_, []) => some []
    | (_ :: _, ';' :: rest) => some rest
    | _ => none
  | _ => none

/-- Whether a text is a list of parameters, blanks before each. -/
def parametersOk : Nat → List Char → Bool
  | 0, _ => false
  | fuel + 1, text =>
    match text.dropWhile (· = ' ') with
    | [] => true
    | text =>
      match parameter text with
      | some rest => parametersOk fuel rest
      | none => false

/-- The type and the full subtype of a media type. -/
def parse? (text : List Char) : Option (List Char × List Char) :=
  match text.span isToken with
  | (kind@(_ :: _), '/' :: rest) =>
    match rest.span isToken with
    | ('+' :: _, _) => none
    | (sub@(_ :: _), []) => some (kind, sub)
    | (sub@(_ :: _), ';' :: parameters) =>
      if parametersOk (parameters.length + 1) parameters then some (kind, sub) else none
    | _ => none
  | _ => none

/-- A subtype cut at its last plus sign. -/
def cutSuffix (sub : List Char) : List Char × Option (List Char) :=
  match sub.reverse.span (· ≠ '+') with
  | (_, []) => (sub, none)
  | (suffix, _ :: main) => (main.reverse, some suffix.reverse)

def json : List Char := "json".toList

/-- Whether a content type announces JSON. -/
def isJson (value : String) : Bool :=
  match parse? (value.toList.map Char.toLower) with
  | none => false
  | some (kind, sub) =>
    let (main, suffix) := cutSuffix sub
    kind = "application".toList && (main = json || suffix = some json)

end Teller.Gateway.MediaType
