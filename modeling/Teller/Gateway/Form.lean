import Teller.Gateway.Email
import Teller.Gateway.Headers
import Teller.Gateway.MediaType
import Teller.Json.Record

/-!
# Request bodies

A form is a kind of request body: how to read it from JSON and what its fields have to satisfy. A
request is turned away before its body is read if it does not announce JSON or if the body is too
long.
-/

namespace Teller.Gateway

/-- How a body becomes a value, and what its fields have to satisfy. -/
structure Form (α : Type) where
  reader : Json.Reader α
  report : α → Constraint.Report

namespace Form

/-- Turns away a value that breaks a constraint. -/
def validate {α : Type} (form : Form α) (x : α) : Except Failure α :=
  let report := form.report x
  if report.isClean then .ok x else .error (.badRequest report.message)

/-- What is said about a body that is no JSON of the form. -/
def unreadable (body : List UInt8) (fault : Json.Fault) : String :=
  let what :=
    if fault.problem.isMismatch then "Failed to deserialize the JSON body into the target type"
    else "Failed to parse the request body as JSON"
  "Invalid JSON: " ++ what ++ ": " ++ fault.message body

/-- The most bytes that a body may have. -/
def longest : Nat := 2097152

/-- The value of a body of this form. -/
def read {α : Type} (form : Form α) (headers : Headers) (body : List UInt8) : Except Failure α := do
  if !(headers.text? "content-type").any MediaType.isJson then
    .error (.badRequest "Invalid JSON: Expected request with `Content-Type: application/json`")
  if longest < body.length then
    .error (.badRequest "Invalid JSON: Failed to buffer the request body: length limit exceeded")
  match Json.Reader.all form.reader body with
  | .error fault => .error (.badRequest (unreadable body fault))
  | .ok x => form.validate x

end Form

open Json (Slot require)

/-! ## Sign-up -/

/-- What somebody gives to become a user. -/
structure SignUp where
  username : String
  password : String
  fullName : String
  email : String

/-- The members of a sign-up as far as they have been read. -/
structure SignUp.Draft where
  username : Option String
  password : Option String
  fullName : Option String
  email : Option String

/-- A name has 3 to 100 characters, all of which names can have. -/
def usernameRules (s : String) : List Violation :=
  Constraint.length (some 3) (some 100) s ++ Constraint.username s

/-- A password has 6 to 100 characters. -/
def passwordRules (s : String) : List Violation := Constraint.length (some 6) (some 100) s

/-- A full name has 3 to 100 characters, all of which full names can have. -/
def fullNameRules (s : String) : List Violation :=
  Constraint.length (some 3) (some 100) s ++ Constraint.fullName s

/-- The body of a sign-up, with a rule for each member. -/
def SignUp.form : Form SignUp where
  reader := Json.Reader.record "CreateUserRequest"
    [.of "username" (·.username) (fun x d => { d with username := some x }) Json.Reader.text,
      .of "password" (·.password) (fun x d => { d with password := some x }) Json.Reader.text,
      .of "full_name" (·.fullName) (fun x d => { d with fullName := some x }) Json.Reader.text,
      .of "email" (·.email) (fun x d => { d with email := some x }) Json.Reader.text]
    (⟨none, none, none, none⟩ : SignUp.Draft)
    fun d => do
      return ⟨← require "username" d.username, ← require "password" d.password,
        ← require "full_name" d.fullName, ← require "email" d.email⟩
  report x := [
    ("username", usernameRules x.username),
    ("password", passwordRules x.password),
    ("full_name", fullNameRules x.fullName),
    ("email", Constraint.length none (some 200) x.email ++ Email.check x.email)]

/-! ## Login -/

/-- What a user shows to log in. -/
structure Login where
  username : String
  password : String

/-- The members of a login as far as they have been read. -/
structure Login.Draft where
  username : Option String
  password : Option String

/-- The body of a login. Its members keep the rules of a sign-up. -/
def Login.form : Form Login where
  reader := Json.Reader.record "LoginUserRequest"
    [.of "username" (·.username) (fun x d => { d with username := some x }) Json.Reader.text,
      .of "password" (·.password) (fun x d => { d with password := some x }) Json.Reader.text]
    (⟨none, none⟩ : Login.Draft)
    fun d => do return ⟨← require "username" d.username, ← require "password" d.password⟩
  report x := [("username", usernameRules x.username), ("password", passwordRules x.password)]

/-! ## Renewal of an access token -/

/-- What a client shows for another access token. -/
structure Renewal where
  refreshToken : String

/-- The body of a renewal: a token of at least one character. -/
def Renewal.form : Form Renewal where
  reader := Json.Reader.record "RenewAccessTokenRequest"
    [.of "refresh_token" id (fun x _ => some x) Json.Reader.text]
    (none : Option String)
    fun d => do return ⟨← require "refresh_token" d⟩
  report x := [("refresh_token", Constraint.length (some 1) none x.refreshToken)]

/-! ## Opening of an account -/

/-- What a user says of an account to be opened. -/
structure Opening where
  currency : String

/-- The body of an opening: a supported currency. -/
def Opening.form : Form Opening where
  reader := Json.Reader.record "CreateAccountRequest"
    [.of "currency" id (fun x _ => some x) Json.Reader.text]
    (none : Option String)
    fun d => do return ⟨← require "currency" d⟩
  report x := [("currency", Constraint.currency x.currency)]

/-! ## A page of accounts -/

/-- The offset counts pages, not accounts. -/
structure Page where
  offset : Int64
  limit : Int64

/-- The members of a page as far as they have been read. -/
structure Page.Draft where
  offset : Option Int64
  limit : Option Int64

/-- The page of a query: an offset from zero, and a limit of 5 to 100. -/
def Page.form : Form Page where
  reader := Json.Reader.record "ListAccountsQuery"
    [.of "offset" (·.offset) (fun x d => { d with offset := some x }) Json.Reader.int64,
      .of "limit" (·.limit) (fun x d => { d with limit := some x }) Json.Reader.int64]
    (⟨none, none⟩ : Page.Draft)
    fun d => do return ⟨← require "offset" d.offset, ← require "limit" d.limit⟩
  report x := [("offset", Constraint.range (some 0) none x.offset),
    ("limit", Constraint.range (some 5) (some 100) x.limit)]

/-! ## Transfer order -/

/-- What a user says of money to be moved. -/
structure TransferOrder where
  fromAccount : Int64
  toAccount : Int64
  amount : Int64
  currency : String

/-- The members of an order as far as they have been read. -/
structure TransferOrder.Draft where
  fromAccount : Option Int64
  toAccount : Option Int64
  amount : Option Int64
  currency : Option String

/-- The body of a transfer: two accounts, an amount above zero and a supported currency. -/
def TransferOrder.form : Form TransferOrder where
  reader := Json.Reader.record "TransferRequest"
    [.of "from_account_id" (·.fromAccount) (fun x d => { d with fromAccount := some x })
        Json.Reader.int64,
      .of "to_account_id" (·.toAccount) (fun x d => { d with toAccount := some x })
        Json.Reader.int64,
      .of "amount" (·.amount) (fun x d => { d with amount := some x }) Json.Reader.int64,
      .of "currency" (·.currency) (fun x d => { d with currency := some x }) Json.Reader.text]
    (⟨none, none, none, none⟩ : TransferOrder.Draft)
    fun d => do
      return ⟨← require "from_account_id" d.fromAccount, ← require "to_account_id" d.toAccount,
        ← require "amount" d.amount, ← require "currency" d.currency⟩
  report x := [
    ("from_account_id", Constraint.range (some 1) none x.fromAccount),
    ("to_account_id", Constraint.range (some 1) none x.toAccount),
    ("amount", Constraint.range (some 1) none x.amount),
    ("currency", Constraint.currency x.currency)]

end Teller.Gateway
