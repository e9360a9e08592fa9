import Teller.Proofs.Gateway.Tokens
import Teller.Proofs.Store.Sessions

/-!
# Logins

A login is turned away, with nothing written, or an access token and a refresh token are issued and
a session is opened for them.
-/

namespace Teller.Gateway

open Store Interaction Handler

/-- What a login reads and issues if it is admitted, in the order of its questions. -/
structure Admission where
  form : Login
  /-- The row of the user, and the rows after it. -/
  row : List Value
  others : List (List Value)
  user : User
  access : Issue
  refresh : Issue

/-- What a login tells: the session, both tokens and the user. -/
def openedAnswer (id : Uuid) (accessToken : String) (accessExpiresAt : Timestamp)
    (refreshToken : String) (refreshExpiresAt : Timestamp) (user : User) : Json.Value :=
  .object [("session_id", .text (toString id)), ("access_token", .text accessToken),
    ("access_token_expires_at", accessExpiresAt.toJson), ("refresh_token", .text refreshToken),
    ("refresh_token_expires_at", refreshExpiresAt.toJson), ("user", user.toJson)]

namespace Admission

/-- The questions before anything is written, with their answers. -/
def lookups (a : Admission) : List Exchange :=
  .sent (.query .user [.text a.form.username]) (some (.rows (a.row :: a.others))) ::
    (a.access.exchanges ++ a.refresh.exchanges)

/-- The session that is opened. -/
def opening (a : Admission) (r : Request) : Store.Login where
  id := a.refresh.payload.id
  username := a.user.username
  accessToken := a.access.token
  accessExpiresAt := a.access.payload.expiredAt
  refreshToken := a.refresh.token
  refreshExpiresAt := a.refresh.payload.expiredAt
  userAgent := r.headers.text? "user-agent"
  clientIp := clientIp r.headers

/-- What is answered once the session is stored. -/
def answer (a : Admission) (stored : Session) : Json.Value :=
  openedAnswer stored.id a.access.token a.access.payload.expiredAt a.refresh.token
    a.refresh.payload.expiredAt a.user

/-- All that has to be true of a login, of the row of the user and of the time. -/
structure IsDue (a : Admission) (auth : Authority) (r : Request) : Prop where
  body : Login.form.read r.headers r.body = .ok a.form
  found : User.ofCells (Statement.user.answer.zip a.row) = .ok a.user
  password : Password.check a.form.password a.user.passwordHash = .ok ()
  access : a.access.IsFor auth a.user.username auth.accessLifetime
  refresh : a.refresh.IsFor auth a.user.username auth.refreshLifetime

/-- What comes of a login, by the reply to the opening of the session. -/
def outcome (a : Admission) (reply : Reply) : Except Failure Json.Value :=
  ((Statement.insertSession.first Session.ofCells reply).mapError .ofStore).map a.answer

end Admission

variable {log : List Exchange} {auth : Authority} {r : Request}

theorem status_ofPassword (e : Password.Error) :
    400 ≤ (Failure.ofPassword e).status ∧ (Failure.ofPassword e).status ≠ 504 := by
  cases e <;> simp [Failure.ofPassword, Failure.unauthorized, Failure.unexplained, Failure.internal]

theorem status_of_checkPassword {password : String} {user : User} {failure : Failure}
    (h : (Password.check password user.passwordHash).mapError .ofPassword = .error failure) :
    400 ≤ failure.status ∧ failure.status ≠ 504 := by
  obtain ⟨e, -, rfl⟩ := mapError_eq_error_iff.1 h
  exact status_ofPassword e

theorem checks_checkPassword (password : String) (user : User) :
    (checkPassword password user).Checks fun log _ =>
      log = [] ∧ Password.check password user.passwordHash = .ok () := by
  intro log ending h
  rcases checks_ofExcept (fun failure h => (status_of_checkPassword h).2) log ending h with
    away | ⟨u, ended, looked, rfl, passed⟩
  · exact .inl away
  · exact .inr ⟨u, ended, looked, rfl, mapError_eq_ok_iff.1 passed⟩

/-- A login is turned away, or it is due and the session is opened. -/
theorem login_cases {ending : Option (Except Failure Json.Value)}
    (h : (login auth r).run.Goes log ending) :
    TurnedAway log ending ∨ ∃ a : Admission, a.IsDue auth r ∧ ∃ reply,
      log = a.lookups ++ [.sent (a.opening r).request reply] ∧ ending = reply.map a.outcome := by
  have finds (username : String) : (find "user not found" (Store.user username)).Checks
      fun log user => ∃ e, log = [e] ∧ e.Tells .user [.text username] User.ofCells user :=
    checks_find (sends_fetchFirst _ rfl fun _ => rfl)
      (by simp [Request.isLookup, Statement.user])
  rcases (checks_ofRequest Login.form r).bind_cases h with
    away | ⟨form, front, rest, rfl, -, ⟨rfl, body⟩, finding⟩
  · exact .inl away
  rw [List.nil_append]
  rcases (finds form.username).bind_cases finding with
    away | ⟨user, front, rest, rfl, looked, ⟨e, rfl, row, others, rfl, found⟩, checking⟩
  · exact .inl away
  rcases (checks_checkPassword form.password user).bind_cases checking with
    away | ⟨_, front, rest, rfl, -, ⟨rfl, password⟩, issuing⟩
  · exact .inl (.after looked away)
  rw [List.nil_append]
  rcases (checks_issue auth user.username auth.accessLifetime).bind_cases issuing with
    away | ⟨_, front, rest, rfl, looked', ⟨access, rfl, rfl, accessIssued⟩, refreshing⟩
  · exact .inl (.after looked away)
  rcases (checks_issue auth user.username auth.refreshLifetime).bind_cases refreshing with
    away | ⟨_, front, rest, rfl, -, ⟨refresh, rfl, rfl, refreshIssued⟩, opening⟩
  · exact .inl (.after looked (.after looked' away))
  let a : Admission := ⟨form, row, others, user, access, refresh⟩
  obtain ⟨reply, rfl, rfl⟩ := goes_store_first_iff.1 opening
  exact .inr ⟨a, ⟨body, found, password, accessIssued, refreshIssued⟩, reply, rfl, rfl⟩

/-- A login that is due can go on to open the session, whatever the reply is. -/
theorem Admission.IsDue.goes_login {a : Admission} (due : a.IsDue auth r) (reply : Option Reply) :
    (login auth r).run.Goes (a.lookups ++ [.sent (a.opening r).request reply])
      (reply.map a.outcome) := by
  have password : (Password.check a.form.password a.user.passwordHash).mapError
      Failure.ofPassword = .ok () := mapError_eq_ok_iff.2 due.password
  refine goes_bind [] (goes_ofExcept_iff.2 ⟨rfl, congrArg some due.body.symm⟩) ?_
  refine goes_bind [.sent (.query .user [.text a.form.username]) (some (.rows (a.row :: a.others)))]
    (goes_find _ (goes_fetchFirst ⟨a.row, a.others, rfl, due.found⟩)) ?_
  refine goes_bind [] (goes_ofExcept_iff.2 ⟨rfl, congrArg some password.symm⟩) ?_
  refine goes_bind a.access.exchanges due.access.goes ?_
  refine goes_bind a.refresh.exchanges due.refresh.goes ?_
  exact goes_store_first_iff.2 ⟨reply, rfl, rfl⟩

theorem refuses_login (auth : Authority) (r : Request) : (login auth r).Refuses := by
  refine (refuses_ofRequest _ r).bind fun form => ?_
  refine (refuses_find _ _).bind fun user => ?_
  refine (refuses_ofExcept fun failure h => (status_of_checkPassword h).1).bind fun _ => ?_
  refine (refuses_issue auth _ _).bind fun access => ?_
  refine (refuses_issue auth _ _).bind fun refresh => ?_
  exact (refuses_store _).bind fun _ => refuses_pure _

theorem handle_login (method : r.method = "POST") (path : r.path = "/users/login") :
    handle auth r = respond (login auth r) := by
  have offered : (endpoints r.path).lookup r.method = some (.free .login) := by
    rw [method, path]
    rfl
  exact handle_of_endpoint offered (by simp [method])

section

variable {σ : Type}

/-- A login only looks something up and fails, or it is due and the session is opened. -/
theorem handle_login_cases (world : (q : Question) → σ → q.Answer × σ) (s : σ) (auth : Authority)
    (method : r.method = "POST") (path : r.path = "/users/login") :
    ((∀ request ∈ requests ((handle auth r).log world s), request.isLookup) ∧
      ∀ answer, ((handle auth r).run world s).1 = some answer → answer.status ≠ 200) ∨
      ∃ (a : Admission) (s₁ : σ) (reply : Option Reply), a.IsDue auth r ∧
        (handle auth r).log world s = a.lookups ++ [.sent (a.opening r).request reply] ∧
        Told world s a.lookups s₁ ∧
        Told world s₁ [.sent (a.opening r).request reply] ((handle auth r).run world s).2 ∧
        ((handle auth r).run world s).1 = (reply.map a.outcome).map Response.of := by
  have told := told_log world (handle auth r) s
  have goes := goes_log world (handle auth r) s
  generalize (handle auth r).log world s = log at told goes ⊢
  generalize ((handle auth r).run world s).1 = response at goes ⊢
  rw [handle_login method path] at goes
  obtain ⟨result, entering, rfl⟩ := goes_respond_iff.1 goes
  rcases login_cases entering with away | ⟨a, due, reply, rfl, rfl⟩
  · refine .inl ⟨away.looked, fun answer answered => ?_⟩
    obtain ⟨ended, rfl, rfl⟩ := Option.map_eq_some_iff.1 answered
    obtain ⟨failure, rfl, -⟩ := away.failed ended rfl
    -- Turned away means a failure, and every failure of a login has the status of an error.
    have status := refuses_login auth r _ failure entering
    change failure.status ≠ 200
    omega
  · obtain ⟨s₁, looked, opened⟩ := told.of_append
    exact .inr ⟨a, s₁, reply, due, rfl, looked, opened, rfl⟩

/-- A login that succeeds tells what the reply to the opening of the session reads as. -/
theorem Admission.of_success {a : Admission} {reply : Option Reply} {answer : Response}
    (answered : (reply.map a.outcome).map Response.of = some answer)
    (success : answer.status = 200) : ∃ rows stored, reply = some rows ∧
      Statement.insertSession.first Session.ofCells rows = .ok stored ∧
      answer = .ok (a.answer stored) := by
  obtain ⟨ended, came, rfl⟩ := Option.map_eq_some_iff.1 answered
  obtain ⟨rows, replied, rfl⟩ := Option.map_eq_some_iff.1 came
  cases read : Statement.insertSession.first Session.ofCells rows with
  | ok stored => exact ⟨rows, stored, replied, read, by rw [outcome, read]; rfl⟩
  | error e =>
    rw [outcome, read] at success
    have status := status_ofStore e
    change (Failure.ofStore e).status = 200 at success
    omega

/-- Where a login is due the session is opened, and the answer depends on the reply. -/
theorem Admission.IsDue.log_run {world : (q : Question) → σ → q.Answer × σ} {a : Admission}
    {s s' : σ} (due : a.IsDue auth r)
    (method : r.method = "POST") (path : r.path = "/users/login")
    (told : Told world s a.lookups s') :
    (handle auth r).log world s = a.lookups ++
        [.sent (a.opening r).request (world (.send (a.opening r).request) s').1] ∧
      (handle auth r).run world s =
        (((world (.send (a.opening r).request) s').1.map a.outcome).map Response.of,
          (world (.send (a.opening r).request) s').2) := by
  have goes := goes_respond_iff.2
    ⟨_, due.goes_login (world (.send (a.opening r).request) s').1, rfl⟩
  rw [← handle_login method path] at goes
  exact goes.eq_of_told (told.append (.cons (.send (a.opening r).request) (.nil _)))

end

end Teller.Gateway
