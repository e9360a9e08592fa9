import Teller.Calendar
import Teller.Json.Value
import Teller.Text.Blank
import Teller.Text.Letters

/-!
# Logging

A record is written to the log file and, unless records are written as JSON, to the standard output
as well. Which records are written is said by a filter, a list of directives:

    info                 every record of this level or a graver one
    simple_bank=warn     only records whose target starts with this name
    simple_bank          all of those

Of the directives for a target the one with the longest name decides, and of two with the same name
the later one. Directives about spans, which stand in brackets, decide nothing.
-/

namespace Teller.Logging

/-- How grave a record is, from the gravest on. -/
inductive Level where
  | error
  | warn
  | info
  | debug
  | trace
deriving DecidableEq

namespace Level

/-- The graver a level, the lower its rank; nothing has rank zero. -/
def rank : Level → Nat
  | .error => 1
  | .warn => 2
  | .info => 3
  | .debug => 4
  | .trace => 5

/-- The level as it stands in a record. -/
def name : Level → String
  | .error => "ERROR"
  | .warn => "WARN"
  | .info => "INFO"
  | .debug => "DEBUG"
  | .trace => "TRACE"

end Level

/-- What is written to the log at once. -/
structure Record where
  level : Level
  target : String
  message : String
  fields : List (String × Json.Value)

namespace Record

/-- A value in a line: texts stand there as they are. -/
def shown : Json.Value → String
  | .text s => s
  | v => v.render

/-- The line of a record after its time: the level in five columns, the message, the fields. -/
def line (r : Record) : String :=
  let level := String.ofList (List.replicate (5 - r.level.name.length) ' ') ++ r.level.name
  let fields := r.fields.map fun (name, value) => name ++ "=" ++ shown value
  " ".intercalate ([level, r.message] ++ fields)

/-- A record as a JSON object, its time first. -/
def json (r : Record) (time : List (String × Json.Value)) : Json.Value :=
  .object (time ++ [("level", .text r.level.name),
    ("fields", .object (("message", .text r.message) :: r.fields)),
    ("target", .text r.target)])

end Record

/-! ## Filters -/

/-- Admits records of a target up to a rank; no target means every one. -/
structure Directive where
  target : String
  rank : Nat
deriving DecidableEq

/-- Why a directive counts for nothing. -/
inductive Fault where
  | form
  | level
deriving DecidableEq

/-- What is said of a directive that counts for nothing. -/
def Fault.message : Fault → String
  | .form => "invalid filter directive"
  | .level => "error parsing level filter: expected one of \"off\", \"error\", \"warn\", \"info\", "
    ++ "\"debug\", \"trace\", or a number 0-5"

/-- The rank of a level by its name in any case, or by its number. -/
def rank? (text : List Char) : Option Nat :=
  let names := ["off", "error", "warn", "info", "debug", "trace"]
  let digits := if text.head? = some '+' then text.tail else text
  let number := digits.foldl (fun n c => n * 10 + (c.toNat - 48)) 0
  if digits.isEmpty || !digits.all Char.isDigit then
    names.idxOf? (String.ofList (text.map Char.toLower))
  else if number ≤ Level.trace.rank then some number
  else none

/-- The rank after an equals sign; nothing there means all. -/
def rankAfter (text : List Char) : Except Fault Nat :=
  if text.isEmpty then .ok Level.trace.rank
  else
    match rank? text with
    | some rank => .ok rank
    | none => .error .level

namespace Directive

/-- Whether a directive can start with a character. -/
def startsWith (c : Char) : Bool := Text.isAlphabetic c || c.isDigit || "-:_".toList.contains c

/-- What follows the bracket of a directive about spans: a level or nothing. -/
def afterSpan : List Char → Except Fault (Option Directive)
  | [] => .ok none
  | '=' :: level => (rankAfter level).map fun _ => none
  | _ => .error .form

/-- A directive about spans after its first bracket; no record stands in a span, so it says nothing. -/
def ofSpan (text : List Char) : Except Fault (Option Directive) :=
  match text.span fun c => c ≠ ']' && c ≠ '\x7b' with
  | (_, ']' :: level) => afterSpan level
  | (_, '\x7b' :: fields) =>
    match fields.span (· ≠ '\x7d') with
    | (_ :: _, _ :: ']' :: level) => afterSpan level
    | _ => .error .form
  | _ => .error .form

/-- What a directive says. Blanks are part of it; none may stand before a target with a level. -/
def ofText (text : List Char) : Except Fault (Option Directive) :=
  match Text.trim text with
  | [] => .error .form
  | '[' :: rest => ofSpan rest
  | first :: _ =>
    if !startsWith first then .error .form
    else
      match text.span fun c => c ≠ '=' && c ≠ '[' with
      | (target, '=' :: level) =>
        if text.head?.any Text.isBlank then .error .level
        else (rankAfter level).map fun rank => some ⟨String.ofList target, rank⟩
      | (_, '[' :: rest) => ofSpan rest
      | _ =>
        match rank? text with
        | some rank => .ok (some ⟨"", rank⟩)
        | none => .ok (some ⟨String.ofList text, Level.trace.rank⟩)

end Directive

/-- Which records are written. -/
structure Filter where
  directives : List Directive
  /-- Directives that count for nothing, and why. -/
  refused : List (String × Fault)

namespace Filter

/-- A filter from directives that commas separate. -/
def ofText (s : String) : Filter :=
  ((s.splitOn ",").filter (· ≠ "")).foldl
    (fun f part =>
      match Directive.ofText part.toList with
      | .ok said => { f with directives := f.directives ++ said.toList }
      | .error fault => { f with refused := f.refused ++ [(part, fault)] })
    ⟨[], []⟩

/-- What is said about a directive that counts for nothing. -/
def refusal (directive : String × Fault) : String :=
  s!"ignoring `{directive.1}`: " ++ directive.2.message

/-- The directive that decides about a target: later ones win unless an earlier one is longer. -/
def decisive? (f : Filter) (target : String) : Option Directive :=
  (f.directives.filter fun d => target.startsWith d.target).foldl
    (fun best d =>
      if best.all fun b => b.target.length ≤ d.target.length then some d else best) none

/-- Whether the filter has the record written: the decisive directive asks for its level. -/
def admits (f : Filter) (r : Record) : Bool :=
  (f.decisive? r.target).any fun d => r.level.rank ≤ d.rank

end Filter

/-! ## Files -/

/-- How often another log file is begun. -/
inductive Rotation where
  | hourly
  | daily
  | never
deriving DecidableEq

/-- A rotation by its name; under any other name there is none. -/
def Rotation.ofName (s : String) : Rotation :=
  if s = "hourly" then .hourly else if s = "daily" then .daily else .never

/-- The name of the log file in use at a time. Without a name of its own it has the date. -/
def fileName (rotation : Rotation) (base : String) (now : Timestamp) : String :=
  let date := match rotation with
    | .hourly => now.date.text ++ "-" ++ padded 2 now.hour
    | .daily | .never => now.date.text
  if base = "" then date
  else
    match rotation with
    | .never => base
    | .hourly | .daily => base ++ "." ++ date

end Teller.Logging
