import Teller.Token.Header

/-!
# Registered claims of a signed token

Beside its payload a signed token must name an expiry that is no negative number, and must not be
meant for an audience: a token with a readable audience is for somebody else. The remaining
registered claims have to be readable, and are not compared with anything.
-/

namespace Teller.Token.Claims

open Json

/-- Goes on where a reader stopped, whether or not it failed. -/
def attempt {α : Type} (r : Reader α) : Reader (Option α) :=
  tryCatch (do return some (← r)) fun _ => return none

/-- Whether a number that is not negative was read. Lists and objects are entered only if empty. -/
def timeClaim : Reader Bool := do
  let first ← Reader.start
  if first = byte '[' then
    Reader.advance
    Reader.closeList
    return false
  else if first = byte '\x7b' then
    Reader.advance
    Reader.closeObject
    return false
  else
    match ← Reader.value 2 with
    | .integer n => return 0 ≤ n
    | .decimal x => return 0 ≤ x && x < 18446744073709551616.0
    | _ => return false

/-- Whether a text or a list of texts was read. -/
def namesClaim : Reader Bool := do
  match ← Header.orNull (Reader.value Header.depth) with
  | some v => return Header.isText v || Header.isTexts v
  | none => return false

/-- What was read of the claims so far. -/
structure Draft where
  seen : List String
  hasExpiry : Bool
  hasAudience : Bool

/-- A claim that may be given once. -/
def slot (name : String) (read : Draft → Reader Draft) : Slot Draft where
  name := name
  isFilled d := d.seen.contains name
  read d := do
    let d ← read d
    return { d with seen := name :: d.seen }

/-- The claims that are looked at. Those of a type they cannot have count as not given. -/
def slots : List (Slot Draft) := [
  slot "exp" fun d => do
    return { d with hasExpiry := (← attempt timeClaim).getD false },
  slot "nbf" fun d => do
    discard (attempt timeClaim)
    return d,
  slot "sub" fun d => do
    discard (attempt (Header.orNull Reader.text))
    return d,
  slot "iss" fun d => do
    discard (attempt namesClaim)
    return d,
  slot "aud" fun d => do
    return { d with hasAudience := (← attempt namesClaim).getD false }]

/-- Reads the claims of a payload, and skips those that are not registered. -/
def reader : Reader Draft := Reader.record "Claims" slots ⟨[], false, false⟩ .ok

/-- Whether the claims name an expiry and no audience. -/
def acceptable (bytes : List UInt8) : Bool :=
  match Reader.all reader bytes with
  | .ok d => d.hasExpiry && !d.hasAudience
  | .error _ => false

end Teller.Token.Claims
