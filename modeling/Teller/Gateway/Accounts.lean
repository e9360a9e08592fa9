import Teller.Gateway.Handler

/-!
# Accounts

Whoever presents a token acts for its subject: new accounts belong to the subject, lists show the
subject's accounts, and an account of somebody else is neither shown nor deleted.
-/

namespace Teller.Gateway

/-- Opens an account with a balance of zero. -/
def Opening.act (payload : Token.Payload) (form : Opening) : Handler Json.Value := do
  let account ← Handler.store (Store.insertAccount payload.username form.currency 0)
  return account.toJson

/-- Opens the account that the body of a request asks for. -/
def openAccount (payload : Token.Payload) (r : Request) : Handler Json.Value := do
  (← Opening.form.ofRequest r).act payload

/-- What is said of an account that is not there. -/
def absentAccount (id : Int64) : String := "account " ++ toString id.toInt ++ " not found"

/-- A refusal to act on what belongs to somebody else. -/
def notYours (what : String) : Failure :=
  ⟨401, Code.permissionDenied, what ++ " doesn't belong to the authenticated user"⟩

/-- The account of this number, which must belong to the subject of the token. -/
def ownAccount (payload : Token.Payload) (segment : String) : Handler Account := do
  let id ← Handler.ofExcept (pathNumber segment)
  if id.toInt < 1 then throw (.badRequest "id must be a positive integer")
  let account ← Handler.find (absentAccount id) (Store.account id.toInt)
  if account.owner ≠ payload.username then throw (notYours "account")
  return account

/-- Shows an account to its owner. -/
def readAccount (payload : Token.Payload) (segment : String) : Handler Json.Value := do
  return (← ownAccount payload segment).toJson

/-- Deletes an account; the answer shows it as it was. -/
def closeAccount (payload : Token.Payload) (segment : String) : Handler Json.Value := do
  let account ← ownAccount payload segment
  Handler.store (Store.deleteAccount account.id)
  return account.toJson

/-- The rows of a page. -/
def Page.window (page : Page) : Except Failure Store.Window :=
  match Amount.mul? page.offset page.limit with
  | some offset => .ok ⟨page.limit, offset⟩
  | none => .error (.badRequest "offset out of range")

/-- Lists a page of the subject's accounts. -/
def listAccounts (payload : Token.Payload) (r : Request) : Handler Json.Value := do
  let window ← Handler.ofExcept do (← Page.ofQuery r.query).window
  let accounts ← Handler.store (Store.accountsOf payload.username window)
  return .array (accounts.map Account.toJson)

end Teller.Gateway
