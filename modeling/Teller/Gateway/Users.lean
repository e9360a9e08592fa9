import Teller.Gateway.Handler

/-!
# Users and their sessions

A login issues an access token and a refresh token; the session that it opens has the identifier of
the refresh token. Whoever holds that refresh token gets new access tokens until the session expires
or is blocked.
-/

namespace Teller.Gateway

/-- Signs a user up; the store keeps a hash of the password. -/
def SignUp.act (form : SignUp) : Handler Json.Value := do
  let salt ← Interaction.salt
  let user ← Handler.store
    (Store.insertUser form.username form.fullName form.email (Password.hash salt form.password))
  return user.toJson

/-- Signs up the user that the body of a request describes. -/
def signUp (r : Request) : Handler Json.Value := do
  (← SignUp.form.ofRequest r).act

/-- The address that a request came from, as the proxies before this service tell it: the first one
on the way, if they name the way, and else the real one. -/
def clientIp (headers : Headers) : Option String :=
  let onTheWay := (headers.text? "x-forwarded-for").map fun v =>
    String.ofList (Text.trim (v.toList.takeWhile (· ≠ ',')))
  (onTheWay.filter (· ≠ "")).or (headers.text? "x-real-ip")

/-- Turns away a password that is not the user's. -/
def checkPassword (password : String) (user : User) : Handler Unit :=
  .ofExcept ((Password.check password user.passwordHash).mapError .ofPassword)

/-- Opens a session for a user whose password is right; the headers tell where the session is used
from. -/
def Login.act (auth : Authority) (headers : Headers) (form : Login) : Handler Json.Value := do
  let user ← Handler.find "user not found" (Store.user form.username)
  checkPassword form.password user
  let (accessToken, access) ← auth.issue user.username auth.accessLifetime
  let (refreshToken, refresh) ← auth.issue user.username auth.refreshLifetime
  let session ← Handler.store (Store.insertSession {
    id := refresh.id
    username := user.username
    accessToken := accessToken
    accessExpiresAt := access.expiredAt
    refreshToken := refreshToken
    refreshExpiresAt := refresh.expiredAt
    userAgent := headers.text? "user-agent"
    clientIp := clientIp headers })
  return .object [("session_id", .text (toString session.id)), ("access_token", .text accessToken),
    ("access_token_expires_at", access.expiredAt.toJson), ("refresh_token", .text refreshToken),
    ("refresh_token_expires_at", refresh.expiredAt.toJson), ("user", user.toJson)]

/-- Logs in whoever the body of a request names. -/
def login (auth : Authority) (r : Request) : Handler Json.Value := do
  (← Login.form.ofRequest r).act auth r.headers

/-- Whether a session may be renewed with a refresh token that says `payload`. -/
def checkSession (session : Session) (payload : Token.Payload) (refreshToken : String)
    (now : Timestamp) : Except Failure Unit := do
  if session.isBlocked then throw (.unauthorized "blocked session")
  if session.username ≠ payload.username then throw (.unauthorized "incorrect session user")
  if session.refreshToken ≠ refreshToken then throw (.unauthorized "mismatched session token")
  if session.refreshExpiresAt < now then throw (.unauthorized "expired session")

/-- Issues another access token for a session. -/
def Renewal.act (auth : Authority) (form : Renewal) : Handler Json.Value := do
  let payload ← auth.verify form.refreshToken
  let session ← Handler.find "session not found" (Store.session payload.id)
  let now ← Interaction.time .wall
  Handler.ofExcept (checkSession session payload form.refreshToken now)
  let (token, access) ← auth.issue payload.username auth.accessLifetime
  let _ ← Handler.store (Store.setAccess session.id token access.expiredAt)
  return .object [("access_token", .text token),
    ("access_token_expires_at", access.expiredAt.toJson)]

/-- Renews the session whose refresh token is in the body of a request. -/
def renew (auth : Authority) (r : Request) : Handler Json.Value := do
  (← Renewal.form.ofRequest r).act auth

end Teller.Gateway
