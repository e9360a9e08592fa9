import Teller.Proofs.Gateway.SessionTable
import Teller.Proofs.Password

/-!
# Sessions over logins and renewals

However many logins and renewals there were, each session agrees with its tokens. So its refresh
token finds its row for as long as it lasts, and an access token, whose identifier is that of no
row, never does.
-/

namespace Teller.Gateway

open Store Interaction Handler
open Token.Maker (november)

section

variable {σ : Type} {database : σ → Database} {world : (q : Question) → σ → q.Answer × σ}
  {s s' : σ} {auth : Authority} {r : Request} {drawn : List Uuid} {tokens : List String}

/-! ### Which tokens renew -/

/-- Every clock that is read tells at most this time. -/
def Before (log : List Exchange) (deadline : Timestamp) : Prop :=
  ∀ (clock : Clock) (now : Timestamp), ⟨.time clock, now⟩ ∈ log → now ≤ deadline

/-- Nothing that is sent fails. -/
def Replied (log : List Exchange) : Prop := ∀ e ∈ log, e.isReplied

theorem Before.subset {part log : List Exchange} {deadline : Timestamp} (h : Before log deadline)
    (sub : part ⊆ log) : Before part deadline := fun clock now mem => h clock now (sub mem)

theorem Replied.subset {part log : List Exchange} (h : Replied log) (sub : part ⊆ log) :
    Replied part := fun e mem => h e (sub mem)

/-- The refresh token of a session is verified for as long as it lasts. -/
theorem Tallies.verifies {session : Session} (tallies : Tallies auth.maker session)
    {log : List Exchange} {result : Option (Except Failure Token.Payload)}
    (goes : (auth.verify session.refreshToken).run.Goes log result)
    (inTime : Before log session.refreshExpiresAt) :
    ∃ payload, result = some (.ok payload) ∧ payload.id = session.id ∧
      payload.username = session.username ∧ ∃ now : Timestamp, log = [⟨.time .tokens, now⟩] ∧
        auth.maker.verify session.refreshToken now = .ok payload := by
  obtain ⟨now, rfl, rfl⟩ := goes_verify_iff.1 goes
  obtain ⟨payload, verified, id, username, -⟩ :=
    tallies.refresh now (inTime .tokens now List.mem_cons_self)
  exact ⟨payload, congrArg some (mapError_eq_ok_iff.2 verified), id, username, now, rfl, verified⟩

/-- A session is found by its identifier. -/
theorem Orderly.finds (h : Orderly auth.maker drawn tokens ((database s).rows .sessions))
    (backs : Backs database world) {row : Row} (stored : row ∈ (database s).rows .sessions)
    {session : Session} (filled : session.IsIn row) {id : Uuid} (meant : id = session.id)
    {absent : String} {log : List Exchange} {result : Option (Except Failure Session)}
    (goes : (find absent (Store.session id)).run.Goes log result)
    (told : Told world s log s') (replied : Replied log) :
    ∃ found, result = some (.ok found) ∧ session = found ∧
      log = [.sent (.query .session [.uuid id])
        (some (.rows [Database.project Session.columns row]))] := by
  subst meant
  obtain ⟨found, asked, rfl⟩ := goes_find_iff.1 goes
  obtain ⟨reply, rfl, rfl⟩ := goes_send_iff.1 asked
  obtain ⟨answered, rfl, success⟩ :=
    Exchange.isReplied_sent_iff.1 (replied _ List.mem_cons_self)
  have truth := ((backs.serves_of_told told).of_success success).1
  rw [Database.answer_session, h.filter_id stored filled] at truth
  subst truth
  have read : Statement.session.first Session.ofCells
      (.rows [Database.project Session.columns row]) = .ok session :=
    Statement.first_eq_ok_iff.2 ⟨_, [], rfl, Session.ofCells_eq_ok_iff.2 filled⟩
  exact ⟨session, congrArg some (mapError_eq_ok_iff.2 read), rfl, rfl⟩

/-- A token is issued at a time from which its lifetime can be counted. -/
theorem issued_of_grantable {username : String} {lifetime : Duration} {log : List Exchange}
    {result : Option (Except Failure (String × Token.Payload))}
    (goes : (auth.issue username lifetime).run.Goes log result)
    (grantable : ∀ now : Timestamp, ⟨.time .tokens, now⟩ ∈ log →
      (now.floor.add? lifetime).isSome) :
    ∃ issued, result = some (.ok issued) ∧ ∃ i : Issue, log = i.exchanges ∧
      i.IsFor auth username lifetime := by
  obtain ⟨id, now, nonce, rfl, rfl⟩ := goes_issue_iff.1 goes
  obtain ⟨expiredAt, added⟩ := Option.isSome_iff_exists.1 (grantable now (.tail _ (.head _)))
  have created : auth.maker.create id nonce username lifetime now = _ :=
    Token.Maker.create_of_add? added
  exact ⟨_, congrArg some (mapError_eq_ok_iff.2 created), ⟨id, now, nonce, _, _⟩, rfl, created⟩

section

variable (h : Orderly auth.maker drawn tokens ((database s).rows .sessions))
  (backs : Backs database world) (method : r.method = "POST")
  (path : r.path = "/tokens/renew_access") {row : Row}
  (stored : row ∈ (database s).rows .sessions) {session : Session} (filled : session.IsIn row)
  (unblocked : session.isBlocked = false)
  (body : Renewal.form.read r.headers r.body = .ok ⟨session.refreshToken⟩)
  (inTime : Before ((handle auth r).log world s) session.refreshExpiresAt)
  (grantable : ∀ now : Timestamp, ⟨.time .tokens, now⟩ ∈ (handle auth r).log world s →
    (now.floor.add? auth.accessLifetime).isSome)
  (replied : Replied ((handle auth r).log world s))

include h backs method path stored filled unblocked body inTime grantable replied

/-- The renewal of a session that is not blocked, with its refresh token, is due for as long as the
token lasts, if nothing fails and another access token can be issued. -/
theorem Orderly.exists_isDue :
    ∃ (g : Grant) (rest : List Exchange), g.IsDue auth r ∧ g.session = session ∧
      (handle auth r).log world s = g.lookups ++ rest := by
  have told := told_log world (handle auth r) s
  have goes := goes_log world (handle auth r) s
  obtain ⟨tallies, old⟩ : Tallies auth.maker session ∧ session.id ∈ drawn := by
    obtain ⟨other, filled', tallies, old⟩ := h.sessions row stored
    exact filled.eq filled' ▸ ⟨tallies, old⟩
  generalize (handle auth r).log world s = log at told goes inTime grantable replied ⊢
  rw [handle_renew method path] at goes
  obtain ⟨result, renewing, -⟩ := goes_respond_iff.1 goes
  -- No step can fail here, so the log is read off step by step from its front.
  have verifying := goes_of_ok_bind body renewing
  obtain ⟨payload, _, log, rfl, ⟨id, username, verifiedAt, rfl, verified⟩, finding⟩ :=
    goes_bind_of_ok verifying fun front result sub part =>
      tallies.verifies part (inTime.subset sub.subset)
  obtain ⟨s₁, first, told⟩ := told.of_append
  have same : database s₁ = database s := backs.same_of_lookups first (List.forall_mem_nil _)
  rw [← same] at h stored
  obtain ⟨_, _, log, rfl, ⟨rfl, rfl⟩, timing⟩ :=
    goes_bind_of_ok finding fun front result sub part =>
      have ⟨s₂, sent⟩ := told.of_prefix sub
      h.finds backs stored filled id part sent
        (replied.subset fun e mem => .tail _ (sub.subset mem))
  obtain ⟨checkedAt, _, log, rfl, rfl, checking⟩ :=
    goes_bind_of_ok timing fun front result _ part => goes_time_iff.1 part
  have unexpired : checkedAt ≤ session.refreshExpiresAt :=
    inTime .wall checkedAt (.tail _ (.tail _ (.head _)))
  have passed : checkSession session payload session.refreshToken checkedAt = .ok () :=
    checkSession_eq_ok_iff.2 ⟨unblocked, username.symm, rfl, unexpired⟩
  have issuing := goes_of_ok_bind passed checking
  obtain ⟨_, _, log, rfl, ⟨access, rfl, issued⟩, -⟩ :=
    goes_bind_of_ok issuing fun front result sub part =>
      issued_of_grantable part fun now mem =>
        grantable now (.tail _ (.tail _ (.tail _ (sub.subset mem))))
  exact ⟨⟨session.refreshToken, verifiedAt, payload, Database.project Session.columns row, [],
    session, checkedAt, access⟩, log, ⟨⟨body, verified, Session.ofCells_eq_ok_iff.2 filled,
      unblocked, username.symm, rfl, unexpired⟩, issued⟩, rfl, rfl⟩

/-- So it is answered with the new token. -/
theorem Orderly.renewable :
    ∃ (g : Grant) (s₁ : σ), g.IsDue auth r ∧ Told world s g.lookups s₁ ∧ g.session = session ∧
      ((handle auth r).run world s).1 = some (.ok g.answer) := by
  obtain ⟨g, rest, due, rfl, log⟩ :=
    h.exists_isDue backs method path stored filled unblocked body inTime grantable replied
  have told := told_log world (handle auth r) s
  rw [log] at told
  obtain ⟨s₁, lookups, -⟩ := told.of_append
  obtain ⟨log, response⟩ := due.log_run method path lookups
  refine ⟨g, s₁, due, lookups, rfl, ?_⟩
  obtain ⟨reply, answered, success⟩ := Exchange.isReplied_sent_iff.1
    (replied _ (log ▸ List.mem_append_right _ List.mem_cons_self))
  have served := backs.serves g.update s₁
  rw [answered] at served
  have truth := (served.of_success success).1
  rw [backs.same_of_lookups lookups g.looks] at truth
  have updated := (Database.answer_setAccess (database s) g.session.id g.access.token
    g.access.payload.expiredAt).1
  rw [h.filter_id stored filled] at updated
  have read : Statement.setAccess.first Session.ofCells reply = .ok { g.session with
      accessToken := g.access.token
      accessExpiresAt := g.access.payload.expiredAt } :=
    Statement.first_eq_ok_iff.2 ⟨_, [], truth.trans updated,
      Session.ofCells_eq_ok_iff.2 (filled.withAccess g.access.token g.access.payload.expiredAt)⟩
  have outcome : g.outcome reply = .ok g.answer :=
    congrArg (fun stored => (Except.mapError Failure.ofStore stored).map fun _ => g.answer) read
  rw [response, answered, Option.map_some, Option.map_some, outcome]
  rfl

end

/-- An access token renews no session. -/
theorem Orderly.refused (backs : Backs database world) (method : r.method = "POST")
    (path : r.path = "/tokens/renew_access")
    (h : Orderly auth.maker drawn tokens ((database s).rows .sessions)) {token : String}
    (given : token ∈ tokens) (body : Renewal.form.read r.headers r.body = .ok ⟨token⟩) :
    (∀ request ∈ requests ((handle auth r).log world s), request.isLookup) ∧
      ∀ answer, ((handle auth r).run world s).1 = some answer →
        ∃ failure, answer = .ofFailure failure ∧ 400 ≤ failure.status := by
  rcases handle_renew_cases world s auth method path with refused | ⟨g, s₁, due, told⟩
  · exact refused
  · obtain ⟨row, stored, filled, found⟩ := due.found_row backs told
    obtain ⟨id, -, tells, apart⟩ := h.access token given
    have presented := due.body
    rw [body] at presented
    cases presented
    -- The row that was found would have the identifier of the access token.
    have sameId : g.payload.id = id := tells _ _ due.verified
    exact absurd (filled.id.trans (congrArg Value.uuid (found.trans sameId))) (apart row stored)

end

/-! ### Any number of requests -/

/-- A request, what was asked and answered for it, and its answer. -/
structure Turn where
  request : Request
  log : List Exchange
  response : Option Response

/-- Whether the request is a login. -/
def Request.IsLogin (r : Request) : Prop := r.method = "POST" ∧ r.path = "/users/login"

/-- Whether the request is a renewal. -/
def Request.IsRenewal (r : Request) : Prop := r.method = "POST" ∧ r.path = "/tokens/renew_access"

/-- What a turn has told, if it was a success: a session that is among these rows, and an access
token that was given to the database. -/
structure Turn.IsKept (turn : Turn) (rows : List Row) : Prop where
  login : turn.request.IsLogin → ∀ answer, turn.response = some answer → answer.status = 200 →
    Recalls (accessTokens turn.log) answer rows
  renewal : turn.request.IsRenewal → ∀ answer, turn.response = some answer → answer.status = 200 →
    ∃ g : Grant, g.access.token ∈ accessTokens turn.log ∧ answer = .ok g.answer

theorem Turn.IsKept.persist {turn : Turn} {rows rows' : List Row} (h : turn.IsKept rows)
    (persists : Persists rows rows') : turn.IsKept rows' where
  login isLogin answer answered success :=
    (h.login isLogin answer answered success).persist persists
  renewal := h.renewal

theorem Request.IsLogin.not_isRenewal {r : Request} (isLogin : r.IsLogin) : ¬r.IsRenewal :=
  fun isRenewal => absurd (isLogin.2.symm.trans isRenewal.2) (by decide)

/-- What others may do meanwhile: to the sessions no more than to block them. -/
def Meanwhile (before after : Database) : Prop :=
  ∃ isBlocked : Row → Bool, after.rows .sessions =
    (before.rows .sessions).map fun row => withBlocked (isBlocked row) row

/-- Blocking keeps the rows in order, and every session. -/
theorem Orderly.meanwhile {maker : Token.Maker} {drawn : List Uuid} {tokens : List String}
    {before after : Database} (h : Orderly maker drawn tokens (before.rows .sessions))
    (others : Meanwhile before after) :
    Orderly maker drawn tokens (after.rows .sessions) ∧
      Persists (before.rows .sessions) (after.rows .sessions) := by
  obtain ⟨isBlocked, rows⟩ := others
  rw [rows]
  refine ⟨h.map _ fun row _ session filled tallies => ?_, fun row mem session filled => ?_⟩
  · exact ⟨_, filled.withBlocked (isBlocked row), ⟨tallies.refresh, tallies.access⟩,
      ⟨rfl, rfl, rfl, rfl⟩⟩
  · exact ⟨_, List.mem_map_of_mem mem, _, filled.withBlocked (isBlocked row), ⟨rfl, rfl, rfl, rfl⟩⟩

section

variable {σ : Type} (database : σ → Database) (world : (q : Question) → σ → q.Answer × σ)
  (auth : Authority)

/-- Logins and renewals one after the other, in any order, from one state of the world to another.
-/
inductive History (s : σ) : List Turn → σ → Prop where
  | start : History s [] s
  | turn {turns : List Turn} {s' : σ} (r : Request) (offered : r.IsLogin ∨ r.IsRenewal)
      (earlier : History s turns s') :
      History s (turns ++ [⟨r, (handle auth r).log world s', ((handle auth r).run world s').1⟩])
        ((handle auth r).run world s').2
  | meanwhile {turns : List Turn} {s' s'' : σ} (others : Meanwhile (database s') (database s''))
      (earlier : History s turns s') : History s turns s''

end

section

variable {σ : Type} {database : σ → Database} {world : (q : Question) → σ → q.Answer × σ}
  {auth : Authority} {s s' : σ}

/-- A turn keeps the rows in order, every session, and what it tells. -/
theorem Orderly.turn {r : Request} {seconds longer : Nat} {drawn : List Uuid}
    {tokens : List String} (backs : Backs database world) (offered : r.IsLogin ∨ r.IsRenewal)
    (access : auth.accessLifetime = Config.lifetime seconds)
    (refresh : auth.refreshLifetime = Config.lifetime longer)
    (h : Orderly auth.maker drawn tokens ((database s).rows .sessions))
    (since : SinceEpoch ((handle auth r).log world s))
    (fresh : (drawn ++ identifiers ((handle auth r).log world s)).Nodup) :
    Orderly auth.maker (drawn ++ identifiers ((handle auth r).log world s))
        (tokens ++ accessTokens ((handle auth r).log world s))
        ((database ((handle auth r).run world s).2).rows .sessions) ∧
      Persists ((database s).rows .sessions)
        ((database ((handle auth r).run world s).2).rows .sessions) ∧
      Turn.IsKept ⟨r, (handle auth r).log world s, ((handle auth r).run world s).1⟩
        ((database ((handle auth r).run world s).2).rows .sessions) := by
  rcases offered with isLogin | isRenewal
  · obtain ⟨next, persists, recalls⟩ :=
      h.login backs isLogin.1 isLogin.2 access refresh since fresh
    exact ⟨next, persists, fun _ => recalls, fun other => absurd other isLogin.not_isRenewal⟩
  · obtain ⟨next, persists, told⟩ := h.renew backs isRenewal.1 isRenewal.2 access since fresh
    exact ⟨next, persists, fun other => absurd isRenewal other.not_isRenewal, fun _ => told⟩

variable {turns : List Turn} {config : Config.Tokens}

/-- However many logins and renewals there were, the rows are in order, and what was told is kept.
-/
theorem History.orderly (history : History database world auth s turns s')
    (backs : Backs database world) (access : auth.accessLifetime = config.accessLifetime)
    (refresh : auth.refreshLifetime = config.refreshLifetime)
    (empty : (database s).rows .sessions = []) (since : ∀ turn ∈ turns, SinceEpoch turn.log)
    (fresh : (turns.flatMap fun turn => identifiers turn.log).Nodup) :
    Orderly auth.maker (turns.flatMap fun turn => identifiers turn.log)
        (turns.flatMap fun turn => accessTokens turn.log) ((database s').rows .sessions) ∧
      ∀ turn ∈ turns, turn.IsKept ((database s').rows .sessions) := by
  -- `Orderly` carries the induction: the rows alone do not say which identifiers are new.
  induction history with
  | start => exact ⟨empty ▸ .empty auth.maker, nofun⟩
  | turn r offered earlier ih =>
    rw [List.flatMap_append, List.flatMap_singleton] at fresh
    obtain ⟨orderly, kept⟩ := ih (fun turn mem => since turn (List.mem_append_left _ mem))
      (List.nodup_append.1 fresh).1
    obtain ⟨next, persists, last⟩ := orderly.turn backs offered access refresh
      (since _ (List.mem_append_right _ List.mem_cons_self)) fresh
    rw [List.flatMap_append, List.flatMap_singleton, List.flatMap_append, List.flatMap_singleton]
    refine ⟨next, fun turn mem => ?_⟩
    rcases List.mem_append.1 mem with old | new
    · exact (kept turn old).persist persists
    · exact List.mem_singleton.1 new ▸ last
  | meanwhile others earlier ih =>
    obtain ⟨orderly, kept⟩ := ih since fresh
    obtain ⟨next, persists⟩ := orderly.meanwhile others
    exact ⟨next, fun turn mem => (kept turn mem).persist persists⟩

/-- After any logins and renewals every session agrees with its tokens. It is renewed with its
refresh token, unless it is blocked, for as long as that lasts and another access token can be
issued; it is renewed with no access token. -/
theorem History.sessions_tally (history : History database world auth s turns s')
    (backs : Backs database world) (access : auth.accessLifetime = config.accessLifetime)
    (refresh : auth.refreshLifetime = config.refreshLifetime)
    (empty : (database s).rows .sessions = []) (since : ∀ turn ∈ turns, SinceEpoch turn.log)
    (fresh : (turns.flatMap fun turn => identifiers turn.log).Nodup) :
    (∀ row ∈ (database s').rows .sessions, ∃ session : Session,
      session.IsIn row ∧ Tallies auth.maker session) ∧
    (∀ turn ∈ turns, turn.IsKept ((database s').rows .sessions)) ∧
    (∀ row ∈ (database s').rows .sessions, ∀ session : Session, session.IsIn row →
      session.isBlocked = false → ∀ r : Request, r.IsRenewal →
      Renewal.form.read r.headers r.body = .ok ⟨session.refreshToken⟩ →
      Before ((handle auth r).log world s') session.refreshExpiresAt →
      Replied ((handle auth r).log world s') →
      (∀ now : Timestamp, ⟨.time .tokens, now⟩ ∈ (handle auth r).log world s' →
        (now.floor.add? auth.accessLifetime).isSome) →
      ∃ g : Grant, g.IsDue auth r ∧ g.session = session ∧
        ((handle auth r).run world s').1 = some (.ok g.answer)) ∧
    ∀ token ∈ turns.flatMap (fun turn => accessTokens turn.log), ∀ r : Request, r.IsRenewal →
      Renewal.form.read r.headers r.body = .ok ⟨token⟩ →
      (∀ request ∈ requests ((handle auth r).log world s'), request.isLookup) ∧
        ∀ answer, ((handle auth r).run world s').1 = some answer →
          ∃ failure, answer = .ofFailure failure ∧ 400 ≤ failure.status := by
  obtain ⟨orderly, kept⟩ := history.orderly backs access refresh empty since fresh
  refine ⟨fun row mem => ?_, kept, ?_, ?_⟩
  · obtain ⟨session, filled, tallies, -⟩ := orderly.sessions row mem
    exact ⟨session, filled, tallies⟩
  · intro row stored session filled unblocked r isRenewal body inTime replied grantable
    obtain ⟨g, -, due, -, same, answered⟩ := orderly.renewable backs isRenewal.1 isRenewal.2 stored
      filled unblocked body inTime grantable replied
    exact ⟨g, due, same, answered⟩
  · intro token given r isRenewal body
    exact orderly.refused backs isRenewal.1 isRenewal.2 given body

end

/-! ### Ada's session -/

namespace Ada

/-- In November 2023 Ada has signed up at a bank, and nobody has logged in. -/
def signedUp (passwordHash : String) : World Database :=
  ⟨(Database.empty november).setRows .users [row], november, november, ⟨0⟩, 0, 0⟩
where
  row : Row
    | .username => .text "ada"
    | .fullName => .text "Ada"
    | .email => .text "ada@example.org"
    | .passwordHash => .text passwordHash
    | .passwordChangedAt => .instant neverChanged
    | .createdAt => .instant november
    | _ => .null

/-- Ada, with the hash of her password. -/
def user (passwordHash : String) : User :=
  ⟨"ada", "Ada", "ada@example.org", passwordHash, neverChanged, november⟩

theorem sessions_signedUp (passwordHash : String) :
    (signedUp passwordHash).database.rows .sessions = [] := rfl

/-- What issues the tokens of the bank. -/
def issuer (config : Config.Tokens) : Authority :=
  ⟨vault.maker, config.accessLifetime, config.refreshLifetime⟩

theorem issuer_accessLifetime (config : Config.Tokens) :
    (issuer config).accessLifetime = config.accessLifetime := rfl

theorem issuer_refreshLifetime (config : Config.Tokens) :
    (issuer config).refreshLifetime = config.refreshLifetime := rfl

/-- Ada logs in. -/
def login : Request where
  method := "POST"
  path := "/users/login"
  query := none
  headers := jsonHeaders
  body := Utf8.encode
    (Json.Value.object [("username", .text "ada"), ("password", .text "secret")]).chars

theorem read_login : Login.form.read login.headers login.body = .ok ⟨"ada", "secret"⟩ := by
  have readable : Login.form.reader.Reads
      (.object [("username", .text "ada"), ("password", .text "secret")]) ⟨"ada", "secret"⟩ :=
    Json.Reader.Fills.reads_record
      (.known rfl rfl ((Json.Reader.reads_text "ada").map _)
        (.known rfl rfl ((Json.Reader.reads_text "secret").map _) (.nil _))) rfl
  exact Form.read_of_reads announced_jsonHeaders (by decide +kernel) readable (by decide)

/-- The token that is issued in this order. -/
def issue (n : Nat) (now expiredAt : Timestamp) : Issue :=
  ⟨⟨n⟩, now, .ofNat n, vault.maker.write (.ofNat n) payload, payload⟩
where
  payload : Token.Payload := ⟨⟨n⟩, "ada", now.floor, expiredAt⟩

/-- What is read and issued when she logs in. -/
def admission (passwordHash : String) (accessUntil refreshUntil : Timestamp) : Admission :=
  ⟨⟨"ada", "secret"⟩, Database.project User.columns (signedUp.row passwordHash), [],
    user passwordHash, issue 0 november accessUntil, issue 1 november refreshUntil⟩

/-- The bank then, at a later time. -/
def loggedIn (passwordHash : String) (accessUntil refreshUntil later : Timestamp) :
    World Database :=
  let opening := (admission passwordHash accessUntil refreshUntil).opening login
  ⟨((signedUp passwordHash).database.answer opening.request).2, later, later, ⟨2⟩, 2, 0⟩

/-- The session of Ada's login, with tokens that are good until these times. -/
def session (accessUntil refreshUntil : Timestamp) : Session :=
  ⟨⟨1⟩, "ada", (issue 0 november accessUntil).token, accessUntil,
    (issue 1 november refreshUntil).token, refreshUntil, none, none, false, november⟩

/-- The cells of its row. -/
def cells (accessUntil refreshUntil : Timestamp) : List Value :=
  [.uuid ⟨1⟩, .text "ada", .text (issue 0 november accessUntil).token, .instant accessUntil,
    .text (issue 1 november refreshUntil).token, .instant refreshUntil, .null, .null,
    .boolean false, .instant november]

variable {config : Config.Tokens} {passwordHash : String}
  {accessUntil refreshUntil later renewedUntil : Timestamp}

theorem admission_isDue (password : Password.check "secret" passwordHash = .ok ())
    (access : november.floor.add? config.accessLifetime = some accessUntil)
    (refresh : november.floor.add? config.refreshLifetime = some refreshUntil) :
    (admission passwordHash accessUntil refreshUntil).IsDue (issuer config) login where
  body := read_login
  found := rfl
  password := password
  access := Token.Maker.create_of_add? access
  refresh := Token.Maker.create_of_add? refresh

/-- Her session is opened. -/
theorem log_run_login (password : Password.check "secret" passwordHash = .ok ())
    (access : november.floor.add? config.accessLifetime = some accessUntil)
    (refresh : november.floor.add? config.refreshLifetime = some refreshUntil) :
    let a := admission passwordHash accessUntil refreshUntil
    (handle (issuer config) login).log (World.answer Database.reply) (signedUp passwordHash) =
        a.lookups ++ [.sent (a.opening login).request
          (some (.rows [cells accessUntil refreshUntil]))] ∧
      (handle (issuer config) login).run (World.answer Database.reply) (signedUp passwordHash) =
        (some (.ok (a.answer (session accessUntil refreshUntil))),
          loggedIn passwordHash accessUntil refreshUntil november) := by
  intro a
  have told : Told (World.answer Database.reply) (signedUp passwordHash) a.lookups
      { signedUp passwordHash with identifier := ⟨2⟩, nonces := 2 } :=
    .cons (.send _) (.cons .identifier (.cons (.time .tokens) (.cons .nonce
      (.cons .identifier (.cons (.time .tokens) (.cons .nonce (.nil _)))))))
  exact (admission_isDue password access refresh).log_run rfl rfl told

/-- Then time passes. -/
theorem meanwhile (passwordHash : String) (accessUntil refreshUntil later : Timestamp) :
    Meanwhile (loggedIn passwordHash accessUntil refreshUntil november).database
      (loggedIn passwordHash accessUntil refreshUntil later).database := by
  have unblocked (row : Row) (free : row .isBlocked = .boolean false) :
      withBlocked false row = row := by
    funext c
    cases c <;> first | rfl | exact free.symm
  exact ⟨fun _ => false, congrArg (fun row => [row]) (unblocked _ rfl).symm⟩

/-- She has logged in, and time has passed. -/
theorem history (password : Password.check "secret" passwordHash = .ok ())
    (access : november.floor.add? config.accessLifetime = some accessUntil)
    (refresh : november.floor.add? config.refreshLifetime = some refreshUntil)
    (later : Timestamp) :
    History World.database (World.answer Database.reply) (issuer config) (signedUp passwordHash)
      [⟨login,
        (handle (issuer config) login).log (World.answer Database.reply) (signedUp passwordHash),
        some (.ok ((admission passwordHash accessUntil refreshUntil).answer
          (session accessUntil refreshUntil)))⟩]
      (loggedIn passwordHash accessUntil refreshUntil later) := by
  have turn : History World.database (World.answer Database.reply) (issuer config)
      (signedUp passwordHash) _ _ := .turn login (.inl ⟨rfl, rfl⟩) .start
  rw [(log_run_login password access refresh).2] at turn
  exact turn.meanwhile (meanwhile passwordHash accessUntil refreshUntil later)

/-- Her session is to be renewed at a later time. -/
def grant (accessUntil refreshUntil later renewedUntil : Timestamp) : Grant where
  refreshToken := (issue 1 november refreshUntil).token
  verifiedAt := later
  payload := issue.payload 1 november refreshUntil
  row := cells accessUntil refreshUntil
  others := []
  session := session accessUntil refreshUntil
  checkedAt := later
  access := issue 2 later renewedUntil

theorem read_token (n : Nat) (now expiredAt : Timestamp) :
    let r := renewal (issue n now expiredAt).token
    Renewal.form.read r.headers r.body = .ok ⟨(issue n now expiredAt).token⟩ :=
  read_renewal_sign vaultKey (p := issue.payload n now expiredAt)
    (show "ada".length ≤ 100 by decide)

theorem grant_passes (refresh : november.floor.add? config.refreshLifetime = some refreshUntil)
    (inTime : later ≤ refreshUntil) (accessUntil renewedUntil : Timestamp) :
    (grant accessUntil refreshUntil later renewedUntil).Passes (issuer config)
      (renewal (issue 1 november refreshUntil).token) where
  body := read_token 1 november refreshUntil
  verified := by
    have created : (issue 1 november refreshUntil).IsFor (issuer config) "ada"
        config.refreshLifetime := Token.Maker.create_of_add? refresh
    exact created.issued.verified (show Timestamp.epoch ≤ november by decide) inTime
  found := rfl
  unblocked := rfl
  user := rfl
  same := rfl
  unexpired := inTime

theorem told_grant (passwordHash : String)
    (accessUntil refreshUntil later renewedUntil : Timestamp) :
    let g := grant accessUntil refreshUntil later renewedUntil
    ∃ w, Told (World.answer Database.reply) (loggedIn passwordHash accessUntil refreshUntil later)
        g.lookups w ∧
      Replied (g.lookups ++ [.sent g.update (World.answer Database.reply (.send g.update) w).1]) :=
  ⟨_, .cons (.time .tokens) (.cons (.send _) (.cons (.time .wall) (.cons .identifier
    (.cons (.time .tokens) (.cons .nonce (.nil _)))))), List.all_eq_true.1 rfl⟩

/-- Access for a minute, and renewals for an hour. -/
def hourly : Config.Tokens := ⟨.signed, "********************************", 60, 3600⟩

def minutePast : Timestamp := ⟨1700000060 * nanosPerSecond, by decide, by decide⟩
def hourPast : Timestamp := ⟨1700003600 * nanosPerSecond, by decide, by decide⟩
def twoMinutesPast : Timestamp := ⟨1700000120 * nanosPerSecond, by decide, by decide⟩

theorem expiries_hourly : november.floor.add? hourly.accessLifetime = some minutePast ∧
    november.floor.add? hourly.refreshLifetime = some hourPast := ⟨rfl, rfl⟩

end Ada

/-- Ada logs in, and when her access token expires her session is renewed, with its refresh token
and not with its access token. -/
theorem adas_session_renewed :
    let world := World.answer Database.reply
    let s := Ada.signedUp (Password.hash (.ofNat 0) "secret")
    let s' := Ada.loggedIn (Password.hash (.ofNat 0) "secret") Ada.minutePast Ada.hourPast
      Ada.minutePast
    let auth := Ada.issuer Ada.hourly
    (∃ turn : Turn, History World.database world auth s [turn] s' ∧ turn.request = Ada.login ∧
      turn.IsKept (s'.database.rows .sessions) ∧
      ∃ answer, turn.response = some answer ∧ answer.status = 200) ∧
    (∃ g : Grant, ((handle auth (renewal (Ada.issue 1 november Ada.hourPast).token)).run world
      s').1 = some (.ok g.answer)) ∧
    ∀ answer, ((handle auth (renewal (Ada.issue 0 november Ada.minutePast).token)).run world
      s').1 = some answer → ∃ failure, answer = .ofFailure failure ∧ 400 ≤ failure.status := by
  intro world s s' auth
  have password := Password.check_hash (.ofNat 0) "secret"
  have history := Ada.history password Ada.expiries_hourly.1 Ada.expiries_hourly.2 Ada.minutePast
  have since : SinceEpoch ((handle auth Ada.login).log world s) := fun now mem =>
    World.time_of_told (told_log world (handle auth Ada.login) s) mem ▸
      show Timestamp.epoch ≤ november by decide
  rw [(Ada.log_run_login password Ada.expiries_hourly.1 Ada.expiries_hourly.2).1] at since history
  obtain ⟨-, kept, renewable, refused⟩ := history.sessions_tally backs_reply
    (Ada.issuer_accessLifetime _) (Ada.issuer_refreshLifetime _) (Ada.sessions_signedUp _)
    (List.forall_mem_singleton.2 since) (show [Uuid.mk 0, ⟨1⟩].Nodup by decide)
  refine ⟨⟨_, history, rfl, kept _ List.mem_cons_self, _, rfl, rfl⟩, ?_, fun answer answered => ?_⟩
  · have due : (Ada.grant Ada.minutePast Ada.hourPast Ada.minutePast Ada.twoMinutesPast).IsDue
        auth (renewal (Ada.issue 1 november Ada.hourPast).token) :=
      ⟨Ada.grant_passes Ada.expiries_hourly.2 (by decide) _ _, Token.Maker.create_of_add? rfl⟩
    obtain ⟨w, told, replied⟩ := Ada.told_grant (Password.hash (.ofNat 0) "secret")
      Ada.minutePast Ada.hourPast Ada.minutePast Ada.twoMinutesPast
    have times {clock : Clock} {now : Timestamp}
        (mem : ⟨.time clock, now⟩ ∈ (handle auth
          (renewal (Ada.issue 1 november Ada.hourPast).token)).log world s') :
        now = s'.time clock := World.time_of_told (told_log world _ s') mem
    obtain ⟨g, -, -, renewed⟩ := renewable _ List.mem_cons_self
      (Ada.session Ada.minutePast Ada.hourPast) ⟨rfl, rfl, rfl, rfl, rfl, rfl, rfl, rfl, rfl, rfl⟩
      rfl _ ⟨rfl, rfl⟩ (Ada.read_token 1 november Ada.hourPast)
      (fun clock now mem => by rw [times mem]; cases clock <;> decide)
      ((due.log_run rfl rfl told).1 ▸ replied) (fun now mem => by rw [times mem]; rfl)
    exact ⟨g, renewed⟩
  · exact (refused _ List.mem_cons_self _ ⟨rfl, rfl⟩
      (Ada.read_token 0 november Ada.minutePast)).2 answer answered

/-- Tokens for a quarter of a million years. -/
def Ada.lasting : Config.Tokens :=
  ⟨.signed, "********************************", 8000000000000, 8000000000000⟩

/-- The expiry of a token with a lifetime of 8 · 10¹² seconds. -/
def Ada.lastingUntil : Timestamp := ⟨8001700000000 * nanosPerSecond, by decide, by decide⟩

/-- In the year 11476. -/
def Ada.afar : Timestamp := ⟨300000000000 * nanosPerSecond, by decide, by decide⟩

theorem Ada.expiries_lasting :
    november.floor.add? Ada.lasting.accessLifetime = some Ada.lastingUntil ∧
      november.floor.add? Ada.lasting.refreshLifetime = some Ada.lastingUntil := ⟨rfl, rfl⟩

/-- Such tokens can be issued in 2023. Ada's session is open in the year 11476, and the refresh
token of her login still lasts, but its renewal fails: there is no time at which another access
token would expire. -/
theorem late_renewal_failed :
    let world := World.answer Database.reply
    let s := Ada.signedUp (Password.hash (.ofNat 0) "secret")
    let s' := Ada.loggedIn (Password.hash (.ofNat 0) "secret") Ada.lastingUntil Ada.lastingUntil
      Ada.afar
    let auth := Ada.issuer Ada.lasting
    let session := Ada.session Ada.lastingUntil Ada.lastingUntil
    let r := renewal session.refreshToken
    Ada.lasting.validate november = .ok () ∧
    Token.Maker.ofSecret Ada.lasting.kind Ada.lasting.secret = .ok auth.maker ∧
    (∃ (turn : Turn) (user : User), History World.database world auth s [turn] s' ∧
      turn.request = Ada.login ∧ turn.response = some (.ok (openedAnswer session.id
        session.accessToken session.accessExpiresAt session.refreshToken session.refreshExpiresAt
        user))) ∧
    (∃ row ∈ s'.database.rows .sessions, session.IsIn row) ∧ session.isBlocked = false ∧
    Before ((handle auth r).log world s') session.refreshExpiresAt ∧
    Replied ((handle auth r).log world s') ∧
    ((handle auth r).run world s').1 = some (.ofFailure .unexplained) := by
  intro world s s' auth session r
  have history := Ada.history (Password.check_hash (.ofNat 0) "secret") Ada.expiries_lasting.1
    Ada.expiries_lasting.2 Ada.afar
  have passes : (Ada.grant Ada.lastingUntil Ada.lastingUntil Ada.afar Ada.afar).Passes auth r :=
    Ada.grant_passes Ada.expiries_lasting.2 (by decide) _ _
  obtain ⟨w, told, replied⟩ := Ada.told_grant (Password.hash (.ofNat 0) "secret")
    Ada.lastingUntil Ada.lastingUntil Ada.afar Ada.afar
  obtain ⟨log, response⟩ := passes.log_run_unissued rfl rfl told
    (e := .durationOutOfRange) rfl
  refine ⟨rfl, rfl, ⟨_, Ada.user (Password.hash (.ofNat 0) "secret"), history, rfl, rfl⟩,
    ⟨_, List.mem_cons_self, rfl, rfl, rfl, rfl, rfl, rfl, rfl, rfl, rfl, rfl⟩, rfl,
    fun clock now mem => ?_, ?_, response⟩
  · rw [World.time_of_told (told_log world (handle auth r) s') mem]
    cases clock <;> decide
  · rw [log]
    exact fun e mem => replied e (List.mem_append_left _ mem)

end Teller.Gateway
