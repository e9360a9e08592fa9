import Teller.Gateway.Form
import Teller.Text.Numeral
import Teller.Text.Percent

/-!
# Requests

A request is asked of a path, and may have a query. Numbers in either of them are read from text,
after percent signs are undone.
-/

namespace Teller.Gateway

/-- What a client asks, with what its target says of a path and of a query. -/
structure Request where
  method : String
  path : String
  query : Option String
  headers : Headers
  body : List UInt8

/-! ## Numbers in paths -/

/-- A segment of a path that is a number. -/
def pathNumber (segment : String) : Except Failure Int64 :=
  match Text.Percent.decode? segment with
  | none => .error (.badRequest "Invalid URL: Invalid UTF-8 in `id`")
  | some text =>
    match Text.int64? text.toList with
    | .ok n => .ok n
    | .error _ => .error (.badRequest ("Invalid URL: Cannot parse `" ++ text ++ "` to a `i64`"))

/-! ## Pages -/

namespace Page

/-- Takes in one pair of a query; pairs of other names are ignored. -/
def Draft.take (d : Draft) (pair : String × String) : Except String Draft :=
  let number (name : String) : Except String Int64 :=
    (Text.int64? pair.2.toList).mapError fun m => name ++ ": " ++ m.message
  if pair.1 = "offset" then
    if d.offset.isSome then .error "duplicate field `offset`"
    else return { d with offset := some (← number "offset") }
  else if pair.1 = "limit" then
    if d.limit.isSome then .error "duplicate field `limit`"
    else return { d with limit := some (← number "limit") }
  else .ok d

def Draft.complete (d : Draft) : Except String Page :=
  match d.offset, d.limit with
  | none, _ => .error "missing field `offset`"
  | _, none => .error "missing field `limit`"
  | some offset, some limit => .ok ⟨offset, limit⟩

/-- The page that a query asks for. -/
def ofQuery (query : Option String) : Except Failure Page := do
  let pairs := Text.Percent.formPairs (query.getD "")
  let read := do Draft.complete (← pairs.foldlM Draft.take ⟨none, none⟩)
  let page ← read.mapError fun why =>
    Failure.badRequest ("Failed to deserialize query string: " ++ why)
  form.validate page

end Page

end Teller.Gateway
