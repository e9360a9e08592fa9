import Teller.Proofs.Gateway.Authorization
import Teller.Proofs.Gateway.Tokens
import Teller.Proofs.Token.Size

/-!
# Renewal of access tokens

A request for another access token passes one check after the other. The first one that it does not
pass turns it away, with nothing written and no token told; whoever passes them all gets the session
updated.
-/

namespace Teller.Gateway

open Store Interaction Handler

/-- What a renewal reads and issues if it is granted, in the order of its questions. -/
structure Grant where
  refreshToken : String
  verifiedAt : Timestamp
  payload : Token.Payload
  /-- The row that is found, and the rows after it. -/
  row : List Value
  others : List (List Value)
  session : Session
  checkedAt : Timestamp
  access : Issue

namespace Grant

/-- The questions before a token is issued, with their answers. -/
def checks (g : Grant) : List Exchange :=
  [⟨.time .tokens, g.verifiedAt⟩,
    .sent (.query .session [.uuid g.payload.id]) (some (.rows (g.row :: g.others))),
    ⟨.time .wall, g.checkedAt⟩]

/-- The questions before anything is written. -/
def lookups (g : Grant) : List Exchange := g.checks ++ g.access.exchanges

/-- What is written. -/
def update (g : Grant) : Store.Request :=
  .query .setAccess [.uuid g.session.id, .text g.access.token, .instant g.access.payload.expiredAt]

/-- What is answered if it was written. -/
def answer (g : Grant) : Json.Value :=
  .object [("access_token", .text g.access.token),
    ("access_token_expires_at", g.access.payload.expiredAt.toJson)]

/-- All that has to be true of a request, of the row that was found and of the time. -/
structure Passes (g : Grant) (auth : Authority) (r : Request) : Prop where
  body : Renewal.form.read r.headers r.body = .ok ⟨g.refreshToken⟩
  verified : auth.maker.verify g.refreshToken g.verifiedAt = .ok g.payload
  found : Session.ofCells (Statement.session.answer.zip g.row) = .ok g.session
  unblocked : g.session.isBlocked = false
  user : g.session.username = g.payload.username
  same : g.session.refreshToken = g.refreshToken
  unexpired : g.checkedAt ≤ g.session.refreshExpiresAt

/-- And another access token is issued. -/
structure IsDue (g : Grant) (auth : Authority) (r : Request) : Prop extends g.Passes auth r where
  issued : g.access.IsFor auth g.payload.username auth.accessLifetime

end Grant

/-- What comes of a renewal, by the reply to the update. -/
def Grant.outcome (g : Grant) (reply : Reply) : Except Failure Json.Value :=
  ((Statement.setAccess.first Session.ofCells reply).mapError .ofStore).map fun _ => g.answer

variable {log : List Exchange} {auth : Authority} {r : Request}

/-! ### The checks -/

/-- A session is refused at the first thing that is wrong with it. -/
theorem checkSession_eq (session : Session) (payload : Token.Payload) (token : String)
    (now : Timestamp) : checkSession session payload token now =
      if session.isBlocked then .error (.unauthorized "blocked session")
      else if session.username ≠ payload.username then
        .error (.unauthorized "incorrect session user")
      else if session.refreshToken ≠ token then .error (.unauthorized "mismatched session token")
      else if session.refreshExpiresAt < now then .error (.unauthorized "expired session")
      else .ok () := rfl

theorem checkSession_eq_ok_iff {session : Session} {payload : Token.Payload} {token : String}
    {now : Timestamp} : checkSession session payload token now = .ok () ↔
      session.isBlocked = false ∧ session.username = payload.username ∧
        session.refreshToken = token ∧ now ≤ session.refreshExpiresAt := by
  have step {p : Prop} [Decidable p] {f : Failure} {rest : Except Failure Unit} :
      (if p then .error f else rest) = .ok () ↔ ¬p ∧ rest = .ok () := by
    by_cases h : p <;> simp [h]
  have last : ¬session.refreshExpiresAt < now ↔ now ≤ session.refreshExpiresAt := Int.not_lt
  rw [checkSession_eq, step, step, step, step, not_not, not_not, last, Bool.not_eq_true]
  simp only [and_true]

theorem status_of_checkSession {session : Session} {payload : Token.Payload} {token : String}
    {now : Timestamp} {failure : Failure}
    (h : checkSession session payload token now = .error failure) : failure.status = 401 := by
  rw [checkSession_eq] at h
  split at h
  · cases h
    rfl
  split at h
  · cases h
    rfl
  split at h
  · cases h
    rfl
  split at h
  · cases h
    rfl
  · cases h

/-! ### Renewals -/

/-- A renewal is turned away, or it is due and the session is updated. -/
theorem renew_cases {ending : Option (Except Failure Json.Value)}
    (h : (renew auth r).run.Goes log ending) :
    TurnedAway log ending ∨ ∃ g : Grant, g.IsDue auth r ∧
      ∃ reply, log = g.lookups ++ [.sent g.update reply] ∧ ending = reply.map g.outcome := by
  have finds (id : Uuid) : (find "session not found" (Store.session id)).Checks fun log session =>
      ∃ e, log = [e] ∧ e.Tells .session [.uuid id] Session.ofCells session :=
    checks_find (sends_fetchFirst _ rfl fun _ => rfl)
      (by simp [Request.isLookup, Statement.session])
  have passes (session : Session) (payload : Token.Payload) (token : String) (now : Timestamp) :
      (ofExcept (checkSession session payload token now)).Checks fun log u =>
        log = [] ∧ checkSession session payload token now = .ok u :=
    checks_ofExcept fun failure h => by simp [status_of_checkSession h]
  rcases (checks_ofRequest Renewal.form r).bind_cases h with
    away | ⟨form, front, rest, rfl, -, ⟨rfl, body⟩, verifying⟩
  · exact .inl away
  rw [List.nil_append]
  rcases (checks_verify auth form.refreshToken).bind_cases verifying with
    away | ⟨payload, front, rest, rfl, looked, ⟨verifiedAt, rfl, verified⟩, finding⟩
  · exact .inl away
  rcases (finds payload.id).bind_cases finding with
    away | ⟨session, front, rest, rfl, looked', ⟨e, rfl, row, others, rfl, found⟩, timing⟩
  · exact .inl (.after looked away)
  rcases (checks_time .wall).bind_cases timing with
    away | ⟨checkedAt, front, rest, rfl, looked'', rfl, checking⟩
  · exact .inl (.after looked (.after looked' away))
  rcases (passes session payload form.refreshToken checkedAt).bind_cases checking with
    away | ⟨_, front, rest, rfl, -, ⟨rfl, passed⟩, issuing⟩
  · exact .inl (.after looked (.after looked' (.after looked'' away)))
  rw [List.nil_append]
  rcases (checks_issue auth payload.username auth.accessLifetime).bind_cases issuing with
    away | ⟨_, front, rest, rfl, -, ⟨access, rfl, rfl, issued⟩, updating⟩
  · exact .inl (.after looked (.after looked' (.after looked'' away)))
  obtain ⟨unblocked, user, same, unexpired⟩ := checkSession_eq_ok_iff.1 passed
  let g : Grant :=
    ⟨form.refreshToken, verifiedAt, payload, row, others, session, checkedAt, access⟩
  obtain ⟨reply, rfl, rfl⟩ := goes_store_first_iff.1 updating
  have passes : g.Passes auth r := ⟨body, verified, found, unblocked, user, same, unexpired⟩
  exact .inr ⟨g, ⟨passes, issued⟩, reply, rfl, rfl⟩

/-- What a renewal does once the session may be renewed. -/
def Grant.carryOut (g : Grant) (auth : Authority) : Handler Json.Value := do
  let (token, access) ← auth.issue g.payload.username auth.accessLifetime
  let _ ← Handler.store (Store.setAccess g.session.id token access.expiredAt)
  return .object [("access_token", .text token),
    ("access_token_expires_at", access.expiredAt.toJson)]

theorem Grant.Passes.goes_renew {g : Grant} (passes : g.Passes auth r)
    {ending : Option (Except Failure Json.Value)} (rest : (g.carryOut auth).run.Goes log ending) :
    (renew auth r).run.Goes (g.checks ++ log) ending := by
  have verified : (auth.maker.verify g.refreshToken g.verifiedAt).mapError Failure.ofToken =
      .ok g.payload := mapError_eq_ok_iff.2 passes.verified
  have passed : checkSession g.session g.payload g.refreshToken g.checkedAt = .ok () :=
    checkSession_eq_ok_iff.2 ⟨passes.unblocked, passes.user, passes.same, passes.unexpired⟩
  refine goes_bind [] (goes_ofExcept_iff.2 ⟨rfl, congrArg some passes.body.symm⟩) ?_
  refine goes_bind [⟨.time .tokens, g.verifiedAt⟩]
    (goes_verify_iff.2 ⟨g.verifiedAt, rfl, congrArg some verified.symm⟩) ?_
  refine goes_bind [.sent (.query .session [.uuid g.payload.id]) (some (.rows (g.row :: g.others)))]
    (goes_find _ (goes_fetchFirst ⟨g.row, g.others, rfl, passes.found⟩)) ?_
  refine goes_bind [⟨.time .wall, g.checkedAt⟩] (goes_time_iff.2 ⟨g.checkedAt, rfl, rfl⟩) ?_
  exact goes_bind [] (goes_ofExcept_iff.2 ⟨rfl, congrArg some passed.symm⟩) rest

/-- A renewal that is due can go on to the update, whatever the reply is. -/
theorem Grant.IsDue.goes_renew {g : Grant} (due : g.IsDue auth r) (reply : Option Reply) :
    (renew auth r).run.Goes (g.lookups ++ [.sent g.update reply]) (reply.map g.outcome) := by
  rw [Grant.lookups, List.append_assoc]
  refine due.toPasses.goes_renew (goes_bind g.access.exchanges due.issued.goes ?_)
  exact goes_store_first_iff.2 ⟨reply, rfl, rfl⟩

/-- One for which no token can be issued ends there. -/
theorem Grant.Passes.goes_renew_unissued {g : Grant} (passes : g.Passes auth r) {e : Token.Error}
    (unissued : auth.maker.create g.access.id g.access.nonce g.payload.username auth.accessLifetime
      g.access.now = .error e) :
    (renew auth r).run.Goes g.lookups (some (.error (.ofToken e))) := by
  refine passes.goes_renew (goes_bind_error (goes_issue_iff.2 ⟨_, _, _, rfl, ?_⟩))
  rw [unissued]
  rfl

theorem refuses_renew (auth : Authority) (r : Request) : (renew auth r).Refuses := by
  refine (refuses_ofRequest _ r).bind fun form => ?_
  refine (refuses_verify auth _).bind fun payload => ?_
  refine (refuses_find _ _).bind fun session => ?_
  refine (refuses_lift _).bind fun now => ?_
  refine (refuses_ofExcept fun failure h => ?_).bind fun _ => ?_
  · simp [status_of_checkSession h]
  refine (refuses_issue auth _ _).bind fun issued => ?_
  exact (refuses_store _).bind fun _ => refuses_pure _

theorem handle_renew (method : r.method = "POST") (path : r.path = "/tokens/renew_access") :
    handle auth r = respond (renew auth r) := by
  have offered : (endpoints r.path).lookup r.method = some (.free .renew) := by
    rw [method, path]
    rfl
  exact handle_of_endpoint offered (by simp [method])

section

variable {σ : Type} {world : (q : Question) → σ → q.Answer × σ} {s s' : σ}

/-- Where a renewal is due the update is sent, and the answer depends on its reply. -/
theorem Grant.IsDue.log_run {g : Grant} (due : g.IsDue auth r) (method : r.method = "POST")
    (path : r.path = "/tokens/renew_access") (told : Told world s g.lookups s') :
    (handle auth r).log world s =
        g.lookups ++ [.sent g.update (world (.send g.update) s').1] ∧
      ((handle auth r).run world s).1 =
        ((world (.send g.update) s').1.map g.outcome).map Response.of := by
  have goes := goes_respond_iff.2 ⟨_, due.goes_renew (world (.send g.update) s').1, rfl⟩
  rw [← handle_renew method path] at goes
  obtain ⟨sameLog, sameRun⟩ := goes.eq_of_told (told.append (.cons (.send g.update) (.nil _)))
  exact ⟨sameLog, congrArg Prod.fst sameRun⟩

theorem Grant.Passes.log_run_unissued {g : Grant} (passes : g.Passes auth r)
    (method : r.method = "POST") (path : r.path = "/tokens/renew_access")
    (told : Told world s g.lookups s') {e : Token.Error}
    (unissued : auth.maker.create g.access.id g.access.nonce g.payload.username auth.accessLifetime
      g.access.now = .error e) :
    (handle auth r).log world s = g.lookups ∧
      ((handle auth r).run world s).1 = some (.ofFailure (.ofToken e)) := by
  have goes := goes_respond_iff.2 ⟨_, passes.goes_renew_unissued unissued, rfl⟩
  rw [← handle_renew method path] at goes
  obtain ⟨sameLog, sameRun⟩ := goes.eq_of_told told
  exact ⟨sameLog, congrArg Prod.fst sameRun⟩

/-- A request to renew only looks something up and fails, or it is due. -/
theorem handle_renew_cases (world : (q : Question) → σ → q.Answer × σ) (s : σ) (auth : Authority)
    (method : r.method = "POST") (path : r.path = "/tokens/renew_access") :
    ((∀ request ∈ requests ((handle auth r).log world s), request.isLookup) ∧
      ∀ answer, ((handle auth r).run world s).1 = some answer →
        ∃ failure, answer = .ofFailure failure ∧ 400 ≤ failure.status) ∨
      ∃ (g : Grant) (s' : σ), g.IsDue auth r ∧ Told world s g.lookups s' := by
  have told := told_log world (handle auth r) s
  have goes := goes_log world (handle auth r) s
  generalize (handle auth r).log world s = log at told goes ⊢
  generalize ((handle auth r).run world s).1 = response at goes ⊢
  rw [handle_renew method path] at goes
  obtain ⟨result, renewing, rfl⟩ := goes_respond_iff.1 goes
  rcases renew_cases renewing with away | ⟨g, due, reply, rfl, -⟩
  · refine .inl ⟨away.looked, fun answer answered => ?_⟩
    obtain ⟨ended, rfl, rfl⟩ := Option.map_eq_some_iff.1 answered
    obtain ⟨failure, rfl, -⟩ := away.failed ended rfl
    exact ⟨failure, rfl, refuses_renew auth r _ failure renewing⟩
  · obtain ⟨s', first, -⟩ := told.of_append
    exact .inr ⟨g, s', due, first⟩

/-- The request is answered if the reply to the update gives the row back, and fails otherwise. -/
theorem Grant.IsDue.response_cases {g : Grant} (due : g.IsDue auth r) (method : r.method = "POST")
    (path : r.path = "/tokens/renew_access") (told : Told world s g.lookups s') {answer : Response}
    (answered : ((handle auth r).run world s).1 = some answer) :
    ∃ reply, (world (.send g.update) s').1 = some reply ∧
      ((∃ session, Statement.setAccess.first Session.ofCells reply = .ok session ∧
          answer = .ok g.answer) ∨
        ∃ failure, answer = .ofFailure failure ∧ 400 ≤ failure.status) := by
  rw [(due.log_run method path told).2] at answered
  obtain ⟨ended, came, rfl⟩ := Option.map_eq_some_iff.1 answered
  obtain ⟨reply, replied, rfl⟩ := Option.map_eq_some_iff.1 came
  refine ⟨reply, replied, ?_⟩
  cases written : Statement.setAccess.first Session.ofCells reply with
  | ok session => exact .inl ⟨session, rfl, by rw [outcome, written]; rfl⟩
  | error e => exact .inr ⟨.ofStore e, by rw [outcome, written]; rfl, status_ofStore e⟩

theorem status_ofFailure_ne {failure : Failure} (error : 400 ≤ failure.status) :
    (Response.ofFailure failure).status ≠ 200 := by
  change failure.status ≠ 200
  omega

/-- A renewal that is due sends the lookup of its session and the update, and nothing else. -/
theorem Grant.IsDue.requests_log {g : Grant} (due : g.IsDue auth r) (method : r.method = "POST")
    (path : r.path = "/tokens/renew_access") (told : Told world s g.lookups s') :
    requests ((handle auth r).log world s) = [.query .session [.uuid g.payload.id], g.update] := by
  rw [(due.log_run method path told).1]
  rfl

/-- A renewal that is due tells its own access token, if it tells any. -/
theorem Grant.IsDue.answer_of_success {g : Grant} (due : g.IsDue auth r)
    (method : r.method = "POST") (path : r.path = "/tokens/renew_access")
    (told : Told world s g.lookups s') {answer : Response}
    (answered : ((handle auth r).run world s).1 = some answer) (success : answer.status = 200) :
    answer = .ok g.answer := by
  obtain ⟨reply, -, ⟨session, -, rfl⟩ | ⟨failure, rfl, status⟩⟩ :=
    due.response_cases method path told answered
  · rfl
  · exact absurd success (status_ofFailure_ne status)

/-- Where the update gives the row back, the access token is told. -/
theorem Grant.IsDue.response_of_row {g : Grant} (due : g.IsDue auth r) (method : r.method = "POST")
    (path : r.path = "/tokens/renew_access") (told : Told world s g.lookups s') {row : List Value}
    {rows : List (List Value)} {session : Session}
    (replied : (world (.send g.update) s').1 = some (.rows (row :: rows)))
    (read : Session.ofCells (Statement.setAccess.answer.zip row) = .ok session) :
    ((handle auth r).run world s).1 = some (.ok g.answer) := by
  have written := Statement.first_eq_ok_iff.2 ⟨row, rows, rfl, read⟩
  have outcome : g.outcome (.rows (row :: rows)) = .ok g.answer := by
    rw [Grant.outcome, written]
    rfl
  rw [(due.log_run method path told).2, replied, Option.map_some, Option.map_some, outcome]
  rfl

/-- The session is updated exactly by a renewal that is due. -/
theorem updated_iff_due (world : (q : Question) → σ → q.Answer × σ) (s : σ) (auth : Authority)
    (method : r.method = "POST") (path : r.path = "/tokens/renew_access") :
    (∃ arguments, .query .setAccess arguments ∈ requests ((handle auth r).log world s)) ↔
      ∃ (g : Grant) (s' : σ), g.IsDue auth r ∧ Told world s g.lookups s' := by
  constructor
  · rintro ⟨arguments, updated⟩
    rcases handle_renew_cases world s auth method path with ⟨looked, -⟩ | due
    · cases looked _ updated
    · exact due
  · rintro ⟨g, s', due, told⟩
    rw [due.requests_log method path told]
    exact ⟨_, List.mem_cons_of_mem _ List.mem_cons_self⟩

/-- A renewal succeeds exactly if it is due and the row that the update gives back can be read. -/
theorem succeeded_iff_due (world : (q : Question) → σ → q.Answer × σ) (s : σ) (auth : Authority)
    (method : r.method = "POST") (path : r.path = "/tokens/renew_access") :
    (∃ answer, ((handle auth r).run world s).1 = some answer ∧ answer.status = 200) ↔
      ∃ (g : Grant) (s' : σ), g.IsDue auth r ∧ Told world s g.lookups s' ∧
        ∃ row rows session, (world (.send g.update) s').1 = some (.rows (row :: rows)) ∧
          Session.ofCells (Statement.setAccess.answer.zip row) = .ok session := by
  constructor
  · rintro ⟨answer, answered, success⟩
    rcases handle_renew_cases world s auth method path with ⟨-, failed⟩ | ⟨g, s', due, told⟩
    · obtain ⟨failure, rfl, status⟩ := failed answer answered
      exact absurd success (status_ofFailure_ne status)
    · obtain ⟨reply, replied, ⟨session, written, -⟩ | ⟨failure, rfl, status⟩⟩ :=
        due.response_cases method path told answered
      · obtain ⟨row, rows, rfl, read⟩ := Statement.first_eq_ok_iff.1 written
        exact ⟨g, s', due, told, row, rows, session, replied, read⟩
      · exact absurd success (status_ofFailure_ne status)
  · rintro ⟨g, s', due, told, row, rows, session, replied, read⟩
    exact ⟨.ok g.answer, due.response_of_row method path told replied read, rfl⟩

/-- An answer that tells no token tells of a failure. -/
theorem failure_of_not_success (world : (q : Question) → σ → q.Answer × σ) (s : σ)
    (auth : Authority) (method : r.method = "POST") (path : r.path = "/tokens/renew_access")
    {answer : Response} (answered : ((handle auth r).run world s).1 = some answer)
    (failed : answer.status ≠ 200) : ∃ failure, answer = .ofFailure failure := by
  rcases handle_renew_cases world s auth method path with ⟨-, failures⟩ | ⟨g, s', due, told⟩
  · obtain ⟨failure, rfl, -⟩ := failures answer answered
    exact ⟨failure, rfl⟩
  · obtain ⟨reply, -, ⟨session, -, rfl⟩ | ⟨failure, rfl, -⟩⟩ :=
      due.response_cases method path told answered
    · exact absurd rfl failed
    · exact ⟨failure, rfl⟩

/-- A request to renew, in any world and for any maker of tokens. -/
theorem renewal_gate (world : (q : Question) → σ → q.Answer × σ) (s : σ) (auth : Authority)
    (r : Request) (method : r.method = "POST") (path : r.path = "/tokens/renew_access")
    (seconds : Nat) (configured : auth.accessLifetime = Config.lifetime seconds) :
    let log := (handle auth r).log world s
    let response := ((handle auth r).run world s).1
    ((∃ arguments, .query .setAccess arguments ∈ requests log) ↔
      ∃ (g : Grant) (s' : σ), g.IsDue auth r ∧ Told world s g.lookups s') ∧
    ((∃ answer, response = some answer ∧ answer.status = 200) ↔
      ∃ (g : Grant) (s' : σ), g.IsDue auth r ∧ Told world s g.lookups s' ∧
        ∃ row rows session, (world (.send g.update) s').1 = some (.rows (row :: rows)) ∧
          Session.ofCells (Statement.setAccess.answer.zip row) = .ok session) ∧
    (∀ (g : Grant) (s' : σ), g.IsDue auth r → Told world s g.lookups s' →
      requests log = [.query .session [.uuid g.payload.id], g.update] ∧
      (∀ answer, response = some answer → answer.status = 200 → answer = .ok g.answer) ∧
      Token.Issued auth.maker g.access.id g.payload.username seconds g.access.now g.access.token
        g.access.payload) ∧
    ((¬∃ (g : Grant) (s' : σ), g.IsDue auth r ∧ Told world s g.lookups s') →
      ∀ request ∈ requests log, request.isLookup) ∧
    ∀ answer, response = some answer → answer.status ≠ 200 →
      ∃ failure, answer = .ofFailure failure := by
  intro log response
  refine ⟨updated_iff_due world s auth method path, succeeded_iff_due world s auth method path,
    fun g s' due told => ?_, fun none => ?_, fun answer answered failed => ?_⟩
  · have issued := due.issued
    rw [configured] at issued
    exact ⟨due.requests_log method path told,
      fun answer answered success => due.answer_of_success method path told answered success,
      issued.issued⟩
  · exact ((handle_renew_cases world s auth method path).resolve_right none).1
  · exact failure_of_not_success world s auth method path answered failed

end

/-! ### Ada's renewal -/

/-- What announces a body as JSON. -/
def jsonHeaders : Headers := [("content-type", "application/json")]

theorem announced_jsonHeaders : (jsonHeaders.text? "content-type").any MediaType.isJson := by
  decide +kernel

/-- A request that presents a refresh token. -/
def renewal (token : String) : Request where
  method := "POST"
  path := "/tokens/renew_access"
  query := none
  headers := jsonHeaders
  body := Utf8.encode (Json.Value.object [("refresh_token", .text token)]).chars

/-- A renewal with a token of a moderate length is not too long. -/
theorem length_body_renewal {token : String} (short : token.length ≤ 50000) :
    (renewal token).body.length ≤ Form.longest := by
  have bytes := Utf8.length_encode_le (Json.Value.object [("refresh_token", .text token)]).chars
  have written := Json.length_literal_le token.toList
  have name : (Json.literal "refresh_token".toList).length = 15 := by decide
  rw [String.length_toList] at written
  simp only [Json.Value.chars, Json.memberTexts, Json.commas, List.length_append, List.length_cons,
    List.length_nil, name] at bytes
  exact bytes.trans (by rw [Form.longest]; omega)

theorem read_renewal {token : String} (ne : token ≠ "") (short : token.length ≤ 50000) :
    Renewal.form.read (renewal token).headers (renewal token).body = .ok ⟨token⟩ := by
  have readable : Renewal.form.reader.Reads (.object [("refresh_token", .text token)]) ⟨token⟩ :=
    Json.Reader.Fills.reads_record
      (.known rfl rfl ((Json.Reader.reads_text token).map _) (.nil _)) rfl
  refine Form.read_of_reads announced_jsonHeaders (length_body_renewal short) readable ?_
  simp [Renewal.form, Constraint.Report.isClean, Constraint.length, Constraint.outside, ne]

/-- A signed token of a user who could sign up can be handed in. -/
theorem read_renewal_sign (key : Token.Signed.Key) {p : Token.Payload}
    (named : p.username.length ≤ 100) :
    let token := String.ofList (Token.Signed.sign key p)
    Renewal.form.read (renewal token).headers (renewal token).body = .ok ⟨token⟩ := by
  refine read_renewal (Token.Signed.sign_ne _ _) ?_
  rw [String.length_ofList]
  exact (Token.Signed.length_sign_le key p).trans (by omega)

/-- Ada's session, which lasts as long as her token. -/
def adasRow : List Value := [.uuid ⟨0⟩, .text "ada", .text "", .instant .epoch,
  .text (String.ofList adasToken), .instant adasPayload.expiredAt, .null, .null, .boolean false,
  .instant .epoch]

/-- The session that Ada's token is the refresh token of. -/
def adasSession : Session :=
  ⟨⟨0⟩, "ada", "", .epoch, String.ofList adasToken, adasPayload.expiredAt, none, none, false,
    .epoch⟩

/-- Ada's session is found and updated at the start of 1970, whatever the clock of tokens says. -/
def adasWorld (now : Timestamp) : World Script :=
  { World.scripted [some (.rows [adasRow]), some (.rows [adasRow])] [] with tokenTime := now }

/-- The access token that Ada gets then. -/
def adasAccess (now expiredAt : Timestamp) : Token.Payload := ⟨⟨0⟩, "ada", now.floor, expiredAt⟩

/-- Ada's renewal, with what it reads and issues. -/
def adasGrant (now expiredAt : Timestamp) : Grant where
  refreshToken := String.ofList adasToken
  verifiedAt := now
  payload := adasPayload
  row := adasRow
  others := []
  session := adasSession
  checkedAt := .epoch
  access := ⟨⟨0⟩, now, .ofNat 0, vault.maker.write (.ofNat 0) (adasAccess now expiredAt),
    adasAccess now expiredAt⟩

theorem adasGrant_isDue {now expiredAt : Timestamp} (inTime : now ≤ adasPayload.expiredAt)
    (added : now.floor.add? minute = some expiredAt) :
    (adasGrant now expiredAt).IsDue vault (renewal (String.ofList adasToken)) where
  body := read_renewal_sign vaultKey (p := adasPayload) (by decide)
  verified := by
    have accepted : vault.maker.Accepts adasPayload := Token.Maker.accepts_of_epoch_le _ (by decide)
    have verified := Token.Maker.verify_write accepted (.ofNat 0) now
    have late : ¬adasPayload.expiredAt.floor < now := Int.not_lt.2 inTime
    rw [if_neg late] at verified
    exact verified
  found := rfl
  unblocked := rfl
  user := rfl
  same := rfl
  unexpired := (by decide : Timestamp.epoch ≤ adasPayload.expiredAt)
  issued := Token.Maker.create_of_add? added

theorem told_adasGrant (now expiredAt : Timestamp) :
    ∃ w, Told (World.answer fun request (script : Script) => script.answer request) (adasWorld now)
      (adasGrant now expiredAt).lookups w ∧
      (World.answer (fun request (script : Script) => script.answer request)
        (.send (adasGrant now expiredAt).update) w).1 = some (.rows [adasRow]) := by
  refine ⟨_, .cons (.time .tokens) (.cons (.send _) (.cons (.time .wall) (.cons .identifier
    (.cons (.time .tokens) (.cons .nonce (.nil _)))))), ?_⟩
  rfl

/-- Ada's session is renewed. -/
theorem adas_renewal_granted :
    let log := (handle vault (renewal (String.ofList adasToken))).scriptLog (adasWorld .epoch)
    let response :=
      ((adasWorld .epoch).rehearse (handle vault (renewal (String.ofList adasToken)))).1
    (∃ arguments, .query .setAccess arguments ∈ requests log) ∧
      (∃ answer, response = some answer ∧ answer.status = 200) ∧
      vault.maker.verify (adasGrant .epoch adasPayload.expiredAt).access.token .epoch =
        .ok (adasAccess .epoch adasPayload.expiredAt) := by
  intro log response
  obtain ⟨w, told, replied⟩ := told_adasGrant .epoch adasPayload.expiredAt
  have due : (adasGrant .epoch adasPayload.expiredAt).IsDue vault
      (renewal (String.ofList adasToken)) := adasGrant_isDue (by decide) rfl
  obtain ⟨updated, answered, granted, -, -⟩ := renewal_gate
    (World.answer fun request (script : Script) => script.answer request) (adasWorld .epoch) vault
    (renewal (String.ofList adasToken)) rfl rfl 60 rfl
  obtain ⟨-, -, issued⟩ := granted _ w due told
  refine ⟨updated.2 ⟨_, w, due, told⟩,
    answered.2 ⟨_, w, due, told, adasRow, [], adasSession, replied, rfl⟩, ?_⟩
  rw [issued.verify (Token.Maker.accepts_of_epoch_le _ (by decide))]
  rfl

/-- A thousand seconds before 1970. -/
def early : Timestamp := ⟨-1000 * nanosPerSecond, by decide, by decide⟩

/-- A minute later, when an access token of that time expires. -/
def earlyExpiry : Timestamp := ⟨-940 * nanosPerSecond, by decide, by decide⟩

/-- Where tokens are dated before 1970 a renewal is granted with a signed token that is good at no
time. -/
theorem early_renewal_worthless :
    (∃ w, (adasGrant early earlyExpiry).IsDue vault (renewal (String.ofList adasToken)) ∧
      Told (World.answer fun request (script : Script) => script.answer request) (adasWorld early)
        (adasGrant early earlyExpiry).lookups w) ∧
      ((adasWorld early).rehearse (handle vault (renewal (String.ofList adasToken)))).1 =
        some (.ok (adasGrant early earlyExpiry).answer) ∧
      ∀ t, vault.maker.verify (adasGrant early earlyExpiry).access.token t = .error .invalid := by
  obtain ⟨w, told, replied⟩ := told_adasGrant early earlyExpiry
  have due : (adasGrant early earlyExpiry).IsDue vault (renewal (String.ofList adasToken)) :=
    adasGrant_isDue (by decide) rfl
  refine ⟨⟨w, due, told⟩, ?_, fun t => ?_⟩
  · have answered := (due.log_run rfl rfl told).2
    rw [replied] at answered
    exact answered
  · have gone : ¬vault.maker.Accepts (adasAccess early earlyExpiry) := by
      change ¬Timestamp.epoch ≤ earlyExpiry
      decide
    change vault.maker.verify (vault.maker.write (.ofNat 0) (adasAccess early earlyExpiry)) t = _
    rw [Token.Maker.verify, Token.Maker.authentic?_write_of_not_accepts gone]

end Teller.Gateway
