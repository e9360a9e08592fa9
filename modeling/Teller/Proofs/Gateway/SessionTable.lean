import Teller.Proofs.Gateway.Login
import Teller.Proofs.Gateway.Renewal
import Teller.Proofs.Gateway.Served

/-!
# Sessions and their tokens

A session is kept three times: in its row, in its refresh token and in its access token. A login and
a renewal leave the three in agreement.

    row             id    username    refresh_expires_at    access_expires_at
    refresh token   id    username    expiry
    access token          username                          expiry
-/

namespace Teller.Gateway

open Store Interaction Handler

/-! ### Sessions and their tokens -/

/-- As long as the tokens of a session last they say what the session tells. -/
structure Tallies (maker : Token.Maker) (session : Session) : Prop where
  refresh : ∀ t, t ≤ session.refreshExpiresAt → ∃ p, maker.verify session.refreshToken t = .ok p ∧
    p.id = session.id ∧ p.username = session.username ∧ p.expiredAt = session.refreshExpiresAt
  access : ∀ t, t ≤ session.accessExpiresAt → ∃ p, maker.verify session.accessToken t = .ok p ∧
    p.username = session.username ∧ p.expiredAt = session.accessExpiresAt

/-- The same session, which may have got another access token or may have been blocked. -/
structure Continues (session later : Session) : Prop where
  id : later.id = session.id
  username : later.username = session.username
  refreshToken : later.refreshToken = session.refreshToken
  refreshExpiresAt : later.refreshExpiresAt = session.refreshExpiresAt

/-- Each session is still there. -/
def Persists (rows rows' : List Row) : Prop :=
  ∀ row ∈ rows, ∀ session : Session, session.IsIn row →
    ∃ row' ∈ rows', ∃ later : Session, later.IsIn row' ∧ Continues session later

theorem Continues.refl (session : Session) : Continues session session := ⟨rfl, rfl, rfl, rfl⟩

theorem Persists.refl (rows : List Row) : Persists rows rows :=
  fun row mem session filled => ⟨row, mem, session, filled, .refl session⟩

/-- The rows of sessions, by the identifiers that were drawn and the access tokens that were sent to
the database up to now. -/
structure Orderly (maker : Token.Maker) (drawn : List Uuid) (tokens : List String)
    (rows : List Row) : Prop where
  sessions : ∀ row ∈ rows, ∃ session : Session, session.IsIn row ∧ Tallies maker session ∧
    session.id ∈ drawn
  distinct : (rows.map fun row => row .id).Nodup
  access : ∀ token ∈ tokens, ∃ id ∈ drawn, (∀ t p, maker.verify token t = .ok p → p.id = id) ∧
    ∀ row ∈ rows, row .id ≠ .uuid id

namespace Orderly

variable {maker : Token.Maker} {drawn : List Uuid} {tokens : List String} {rows : List Row}

theorem empty (maker : Token.Maker) : Orderly maker [] [] [] where
  sessions := nofun
  distinct := List.nodup_nil
  access := nofun

/-- An identifier that is drawn later is that of no row. -/
theorem id_ne (h : Orderly maker drawn tokens rows) {id : Uuid} (new : id ∉ drawn) {row : Row}
    (mem : row ∈ rows) : row .id ≠ .uuid id := by
  intro same
  obtain ⟨session, filled, -, old⟩ := h.sessions row mem
  rw [filled.id] at same
  cases same
  exact new old

/-- A session has one row. -/
theorem filter_id (h : Orderly maker drawn tokens rows) {row : Row} (mem : row ∈ rows)
    {session : Session} (filled : session.IsIn row) :
    (rows.filter fun other => other .id = .uuid session.id) = [row] := by
  rw [← filled.id]
  exact filter_same_id h.distinct mem

theorem draw (h : Orderly maker drawn tokens rows) (ids : List Uuid) :
    Orderly maker (drawn ++ ids) tokens rows where
  sessions row mem := by
    obtain ⟨session, filled, tallies, old⟩ := h.sessions row mem
    exact ⟨session, filled, tallies, List.mem_append_left ids old⟩
  distinct := h.distinct
  access token mem := by
    obtain ⟨id, old, tells, apart⟩ := h.access token mem
    exact ⟨id, List.mem_append_left ids old, tells, apart⟩

/-- An access token is issued. -/
theorem issue (h : Orderly maker drawn tokens rows) {id : Uuid} (new : id ∉ drawn) {token : String}
    (tells : ∀ t p, maker.verify token t = .ok p → p.id = id) :
    Orderly maker (drawn ++ [id]) (tokens ++ [token]) rows where
  sessions := (h.draw [id]).sessions
  distinct := h.distinct
  access := by
    intro other mem
    rcases List.mem_append.1 mem with old | last
    · exact (h.draw [id]).access other old
    · rw [List.mem_singleton.1 last]
      exact ⟨id, List.mem_append_right _ List.mem_cons_self, tells, fun row => h.id_ne new⟩

/-- A session is opened under a new identifier. -/
theorem opened (h : Orderly maker drawn tokens rows) {session : Session} {row : Row}
    (filled : session.IsIn row) (tallies : Tallies maker session) (new : session.id ∉ drawn) :
    Orderly maker (drawn ++ [session.id]) tokens (rows ++ [row]) where
  sessions := by
    intro other mem
    rcases List.mem_append.1 mem with old | last
    · exact (h.draw [session.id]).sessions other old
    · rw [List.mem_singleton.1 last]
      exact ⟨session, filled, tallies, List.mem_append_right _ List.mem_cons_self⟩
  distinct := by
    rw [List.map_append, List.map_singleton]
    refine List.nodup_append.2 ⟨h.distinct, List.nodup_singleton _, fun v mem w last same => ?_⟩
    obtain ⟨other, old, rfl⟩ := List.mem_map.1 mem
    rw [List.mem_singleton.1 last, filled.id] at same
    exact h.id_ne new old same
  access := by
    intro token mem
    obtain ⟨id, old, tells, apart⟩ := h.access token mem
    refine ⟨id, List.mem_append_left _ old, tells, fun other mem' same => ?_⟩
    rcases List.mem_append.1 mem' with former | last
    · exact apart other former same
    · rw [List.mem_singleton.1 last, filled.id] at same
      cases same
      exact new old

/-- Each row is changed into one of the same session. -/
theorem map (h : Orderly maker drawn tokens rows) (change : Row → Row)
    (same : ∀ row ∈ rows, ∀ session : Session, session.IsIn row → Tallies maker session →
      ∃ later : Session, later.IsIn (change row) ∧ Tallies maker later ∧
        Continues session later) :
    Orderly maker drawn tokens (rows.map change) := by
  have ids : ∀ row ∈ rows, change row .id = row .id := by
    intro row mem
    obtain ⟨session, filled, tallies, -⟩ := h.sessions row mem
    obtain ⟨later, filled', -, continues⟩ := same row mem session filled tallies
    rw [filled'.id, filled.id, continues.id]
  constructor
  · intro row mem
    obtain ⟨former, mem', rfl⟩ := List.mem_map.1 mem
    obtain ⟨session, filled, tallies, old⟩ := h.sessions former mem'
    obtain ⟨later, filled', tallies', continues⟩ := same former mem' session filled tallies
    exact ⟨later, filled', tallies', continues.id ▸ old⟩
  · have kept : (rows.map change).map (fun row => row .id) = rows.map fun row => row .id := by
      rw [List.map_map]
      exact List.map_congr_left ids
    rw [kept]
    exact h.distinct
  · intro token mem
    obtain ⟨id, old, tells, apart⟩ := h.access token mem
    refine ⟨id, old, tells, fun row mem' => ?_⟩
    obtain ⟨former, mem'', rfl⟩ := List.mem_map.1 mem'
    rw [ids former mem'']
    exact apart former mem''

/-- The row of a session gets another access token, which is issued for its user. -/
theorem setAccess (h : Orderly maker drawn tokens rows) {session : Session} {row : Row}
    (stored : row ∈ rows) (filled : session.IsIn row) {id : Uuid} {seconds : Nat} {now : Timestamp}
    {token : String} {payload : Token.Payload}
    (issued : Token.Issued maker id session.username seconds now token payload)
    (since : Timestamp.epoch ≤ now) (new : id ∉ drawn) :
    let rows' := rows.map fun row =>
      if row .id = .uuid session.id then withAccess token payload.expiredAt row else row
    Orderly maker (drawn ++ [id]) (tokens ++ [token]) rows' ∧ Persists rows rows' := by
  have change : ∀ row' ∈ rows, ∀ session' : Session, session'.IsIn row' →
      ∃ later : Session, later.IsIn (if row' .id = .uuid session.id then
          withAccess token payload.expiredAt row' else row') ∧
        (Tallies maker session' → Tallies maker later) ∧ Continues session' later := by
    intro row' mem session' filled'
    split
    · next meant =>
      -- No other row has the identifier, so the token is for the user of this one.
      have same := eq_of_same_id h.distinct mem stored (meant.trans filled.id.symm)
      have username : session'.username = session.username := by
        have user := filled'.username
        rw [same, filled.username] at user
        exact (Value.text.inj user).symm
      refine ⟨_, filled'.withAccess token payload.expiredAt,
        fun tallies => ⟨tallies.refresh, fun t inTime => ?_⟩, ⟨rfl, rfl, rfl, rfl⟩⟩
      exact ⟨payload, issued.verified since inTime, issued.username.trans username.symm, rfl⟩
    · exact ⟨session', filled', fun tallies => tallies, .refl session'⟩
  have next := h.issue new fun t p verified => issued.eq_of_verify since verified ▸ issued.id
  refine ⟨next.map _ fun row' mem session' filled' tallies => ?_,
    fun row' mem session' filled' => ?_⟩
  · obtain ⟨later, laterFilled, keeps, continues⟩ := change row' mem session' filled'
    exact ⟨later, laterFilled, keeps tallies, continues⟩
  · obtain ⟨later, laterFilled, -, continues⟩ := change row' mem session' filled'
    exact ⟨_, List.mem_map_of_mem mem, later, laterFilled, continues⟩

end Orderly

/-! ### One request -/

/-- The access token that a request gives to the database: every one is stored before anybody is
told of it. -/
def accessToken? : Store.Request → Option String
  | .query statement arguments =>
    if statement = .insertSession then arguments[2]? >>= Value.text?
    else if statement = .setAccess then arguments[1]? >>= Value.text?
    else none
  | .start | .commit | .rollback => none

/-- The access tokens that were given to the database. -/
def accessTokens (log : List Exchange) : List String := (requests log).filterMap accessToken?

theorem accessTokens_of_lookups {log : List Exchange}
    (looked : ∀ request ∈ requests log, request.isLookup) : accessTokens log = [] := by
  refine List.filterMap_eq_nil_iff.2 fun request mem => ?_
  have lookup := looked request mem
  cases request with
  | query statement arguments =>
    cases statement with
    | select | ping => rfl
    | insert | update | delete => cases lookup
  | start | commit | rollback => rfl

/-- The clock of the tokens never told a time before 1970. -/
def SinceEpoch (log : List Exchange) : Prop :=
  ∀ now : Timestamp, ⟨.time .tokens, now⟩ ∈ log → Timestamp.epoch ≤ now

section

variable {σ : Type} {database : σ → Database} {world : (q : Question) → σ → q.Answer × σ}
  {s s' : σ} {auth : Authority} {r : Request}

theorem Issue.now_mem (i : Issue) : ⟨.time .tokens, i.now⟩ ∈ i.exchanges := .tail _ (.head _)

theorem Grant.access_subset (g : Grant) : g.access.exchanges ⊆ g.lookups :=
  fun _ mem => .tail _ (.tail _ (.tail _ mem))

theorem Grant.looks (g : Grant) : ∀ request ∈ requests g.lookups, request.isLookup := by
  intro request mem
  have sent : requests g.lookups = [.query .session [.uuid g.payload.id]] := rfl
  rw [sent, List.mem_singleton] at mem
  rw [mem]
  rfl

theorem Admission.access_subset (a : Admission) : a.access.exchanges ⊆ a.lookups :=
  fun _ mem => .tail _ (List.mem_append_left _ mem)

theorem Admission.refresh_subset (a : Admission) : a.refresh.exchanges ⊆ a.lookups :=
  fun _ mem => .tail _ (List.mem_append_right _ mem)

theorem Admission.looks (a : Admission) : ∀ request ∈ requests a.lookups, request.isLookup := by
  intro request mem
  have sent : requests a.lookups = [.query .user [.text a.form.username]] := rfl
  rw [sent, List.mem_singleton] at mem
  rw [mem]
  rfl

/-- A login has told one of these access tokens, and the session that it has told of is among these
rows, whatever has become of its access token since. -/
def Recalls (tokens : List String) (answer : Response) (rows : List Row) : Prop :=
  ∃ row ∈ rows, ∃ session : Session, session.IsIn row ∧ ∃ token ∈ tokens,
    ∃ (expiresAt : Timestamp) (user : User), answer = .ok (openedAnswer session.id token expiresAt
      session.refreshToken session.refreshExpiresAt user)

theorem Recalls.persist {told : List String} {answer : Response} {rows rows' : List Row}
    (h : Recalls told answer rows) (persists : Persists rows rows') :
    Recalls told answer rows' := by
  obtain ⟨row, mem, session, filled, token, given, expiresAt, user, rfl⟩ := h
  obtain ⟨row', mem', later, filled', continues⟩ := persists row mem session filled
  refine ⟨row', mem', later, filled', token, given, expiresAt, user, ?_⟩
  rw [continues.id, continues.refreshToken, continues.refreshExpiresAt]

/-- A renewal that is due has found the row of its session. -/
theorem Grant.IsDue.found_row {g : Grant} (due : g.IsDue auth r) (backs : Backs database world)
    (told : Told world s g.lookups s') :
    ∃ row ∈ (database s).rows .sessions, g.session.IsIn row ∧ g.session.id = g.payload.id := by
  have told : Told world s ([⟨.time .tokens, g.verifiedAt⟩] ++
      ([.sent (.query .session [.uuid g.payload.id]) (some (.rows (g.row :: g.others)))] ++
        ⟨.time .wall, g.checkedAt⟩ :: g.access.exchanges)) s' := told
  obtain ⟨s₁, first, later⟩ := told.of_append
  obtain ⟨s₂, second, -⟩ := later.of_append
  have same : database s₁ = database s := backs.same_of_lookups first (List.forall_mem_nil _)
  have served := backs.serves_of_told second
  obtain ⟨reply, -⟩ := served.of_success rfl
  rw [same, Database.answer_session] at reply
  have mem : g.row ∈ (((((database s).rows .sessions).filter fun row =>
      row .id = .uuid g.payload.id).take 1).map (Database.project Session.columns)) :=
    Reply.rows.inj reply ▸ List.mem_cons_self
  obtain ⟨row, taken, projected⟩ := List.mem_map.1 mem
  obtain ⟨stored, meant⟩ := List.mem_filter.1 (List.mem_of_mem_take taken)
  have found := due.found
  rw [← projected] at found
  have filled := Session.ofCells_eq_ok_iff.1 found
  refine ⟨row, stored, filled, ?_⟩
  rw [filled.id] at meant
  exact Value.uuid.inj (of_decide_eq_true meant)

variable {seconds longer : Nat} {drawn : List Uuid} {tokens : List String}

/-- What becomes of a session that is to be opened: nothing, and no row comes back, or it gets a
row. -/
theorem serves_opening {db after : Database} {l : Store.Login} {reply : Option Reply}
    (h : db.Serves l.request reply after) :
    (after.rows .sessions = db.rows .sessions ∧ ∀ rows, reply ≠ some (.rows rows)) ∨
      ∃ row, (l.session db.now).IsIn row ∧ after.rows .sessions = db.rows .sessions ++ [row] ∧
        ∀ rows, reply = some (.rows rows) → rows = [Database.project Session.columns row] := by
  have silent {reply : Option Reply} (failure : reply.all Reply.isFailure) (rows) :
      reply ≠ some (.rows rows) := by
    rintro rfl
    cases failure
  -- The row is refused or inserted. If the reply to that is lost, either may have happened.
  rcases db.answer_login l with ⟨⟨code, detail, refused⟩, same⟩ | ⟨row, filled, -, replied, rows⟩
  · left
    cases h with
    | replied => exact ⟨same, by rw [refused]; nofun⟩
    | failed failure left =>
      refine ⟨?_, silent failure⟩
      rcases left with rfl | rfl
      · rfl
      · exact same
  · cases h with
    | replied =>
      refine .inr ⟨row, filled, rows, fun found told => ?_⟩
      rw [replied] at told
      cases told
      rfl
    | failed failure left =>
      rcases left with rfl | rfl
      · exact .inl ⟨rfl, silent failure⟩
      · exact .inr ⟨row, filled, rows, fun found told => absurd told (silent failure found)⟩

/-- Both tokens of a login were issued, and not before 1970. -/
structure Admission.IsIssued (a : Admission) (maker : Token.Maker) (seconds longer : Nat) : Prop where
  access : Token.Issued maker a.access.id a.user.username seconds a.access.now a.access.token
    a.access.payload
  refresh : Token.Issued maker a.refresh.id a.user.username longer a.refresh.now a.refresh.token
    a.refresh.payload
  accessNow : Timestamp.epoch ≤ a.access.now
  refreshNow : Timestamp.epoch ≤ a.refresh.now

theorem Admission.IsDue.isIssued {a : Admission} (due : a.IsDue auth r)
    (access : auth.accessLifetime = Config.lifetime seconds)
    (refresh : auth.refreshLifetime = Config.lifetime longer) {rest : List Exchange}
    (since : SinceEpoch (a.lookups ++ rest)) : a.IsIssued auth.maker seconds longer where
  access := (access ▸ due.access).issued
  refresh := (refresh ▸ due.refresh).issued
  accessNow := since a.access.now (List.mem_append_left _ (a.access_subset a.access.now_mem))
  refreshNow := since a.refresh.now (List.mem_append_left _ (a.refresh_subset a.refresh.now_mem))

/-- The row that a login opens says what its tokens say. -/
theorem Admission.IsIssued.tallies {a : Admission} {maker : Token.Maker}
    (issued : a.IsIssued maker seconds longer) (r : Request) (now : Timestamp) :
    Tallies maker ((a.opening r).session now) := by
  refine ⟨fun t inTime => ?_, fun t inTime => ?_⟩
  · exact ⟨a.refresh.payload, issued.refresh.verified issued.refreshNow inTime, rfl,
      issued.refresh.username, rfl⟩
  · exact ⟨a.access.payload, issued.access.verified issued.accessNow inTime,
      issued.access.username, rfl⟩

/-- Whatever becomes of the opening of a session, the rows stay in order. The access token has taken
its identifier before the session gets one. -/
theorem Orderly.opening {maker : Token.Maker} {db after : Database} {a : Admission}
    {reply : Option Reply} (h : Orderly maker drawn tokens (db.rows .sessions))
    (issued : a.IsIssued maker seconds longer)
    (fresh : (drawn ++ [a.access.id] ++ [a.refresh.id]).Nodup)
    (served : db.Serves (a.opening r).request reply after) :
    Orderly maker (drawn ++ [a.access.id] ++ [a.refresh.id]) (tokens ++ [a.access.token])
        (after.rows .sessions) ∧
      Persists (db.rows .sessions) (after.rows .sessions) := by
  obtain ⟨accessFresh, -, refreshNew⟩ := List.nodup_append.1 fresh
  obtain ⟨-, -, accessNew⟩ := List.nodup_append.1 accessFresh
  have next := h.issue (fun old => accessNew _ old _ List.mem_cons_self rfl)
    fun t p verified => issued.access.eq_of_verify issued.accessNow verified ▸ issued.access.id
  rcases serves_opening served with ⟨kept, -⟩ | ⟨row, filled, rows, -⟩
  · rw [kept]
    exact ⟨next.draw [a.refresh.id], .refl _⟩
  · have id : a.refresh.payload.id = a.refresh.id := issued.refresh.id
    have stored := next.opened filled (issued.tallies r db.now) fun old =>
      refreshNew _ old _ List.mem_cons_self id
    rw [rows]
    exact ⟨id ▸ stored, fun row' mem session filled' =>
      ⟨row', List.mem_append_left _ mem, session, filled', .refl session⟩⟩

/-- A login that succeeds tells of the session that it has opened. -/
theorem Admission.recalls {db after : Database} {a : Admission} {reply : Option Reply}
    (served : db.Serves (a.opening r).request reply after) {answer : Response}
    (answered : (reply.map a.outcome).map Response.of = some answer)
    (success : answer.status = 200) :
    Recalls [a.access.token] answer (after.rows .sessions) := by
  obtain ⟨found, stored, rfl, read, rfl⟩ := Admission.of_success answered success
  obtain ⟨row', others, rfl, cells⟩ := Statement.first_eq_ok_iff.1 read
  rcases serves_opening served with ⟨-, silent⟩ | ⟨row, filled, rows, told⟩
  · exact absurd rfl (silent _)
  · cases told _ rfl
    have same := filled.eq (Session.ofCells_eq_ok_iff.1 cells)
    rw [rows, same]
    exact ⟨row, List.mem_append_right _ List.mem_cons_self, _, filled, a.access.token,
      List.mem_cons_self, a.access.payload.expiredAt, a.user, rfl⟩

/-- A login keeps the rows in order, and every session; if it succeeds, it tells of a session that
is stored. -/
theorem Orderly.login (backs : Backs database world) (method : r.method = "POST")
    (path : r.path = "/users/login") (access : auth.accessLifetime = Config.lifetime seconds)
    (refresh : auth.refreshLifetime = Config.lifetime longer)
    (h : Orderly auth.maker drawn tokens ((database s).rows .sessions))
    (since : SinceEpoch ((handle auth r).log world s))
    (fresh : (drawn ++ identifiers ((handle auth r).log world s)).Nodup) :
    Orderly auth.maker (drawn ++ identifiers ((handle auth r).log world s))
        (tokens ++ accessTokens ((handle auth r).log world s))
        ((database ((handle auth r).run world s).2).rows .sessions) ∧
      Persists ((database s).rows .sessions)
        ((database ((handle auth r).run world s).2).rows .sessions) ∧
      ∀ answer, ((handle auth r).run world s).1 = some answer → answer.status = 200 →
        Recalls (accessTokens ((handle auth r).log world s)) answer
          ((database ((handle auth r).run world s).2).rows .sessions) := by
  have told := told_log world (handle auth r) s
  rcases handle_login_cases world s auth method path with
    ⟨looked, failed⟩ | ⟨a, s₁, reply, due, log, lookups, opened, response⟩
  · rw [accessTokens_of_lookups looked, List.append_nil, backs.same_of_lookups told looked]
    exact ⟨h.draw _, .refl _, fun answer answered success =>
      absurd success (failed answer answered)⟩
  · rw [log] at since fresh ⊢
    have same : database s₁ = database s := backs.same_of_lookups lookups a.looks
    have served := backs.serves_of_told opened
    rw [same] at served
    -- A login draws two identifiers, and its access token is the only one that is new.
    have ids : drawn ++ identifiers (a.lookups ++ [.sent (a.opening r).request reply]) =
        drawn ++ [a.access.id] ++ [a.refresh.id] :=
      (List.append_assoc drawn [a.access.id] [a.refresh.id]).symm
    have given : accessTokens (a.lookups ++ [.sent (a.opening r).request reply]) =
        [a.access.token] := rfl
    rw [ids] at fresh
    rw [ids, given, response]
    obtain ⟨orderly, persists⟩ := h.opening (due.isIssued access refresh since) fresh served
    exact ⟨orderly, persists, fun answer answered success =>
      Admission.recalls served answered success⟩

/-- Whatever becomes of the update of a session, the rows stay in order: carried out or not, the
token counts as given to the database. -/
theorem Orderly.update {db after : Database} {g : Grant} {reply : Option Reply}
    (h : Orderly auth.maker drawn tokens (db.rows .sessions)) (due : g.IsDue auth r)
    (configured : auth.accessLifetime = Config.lifetime seconds) {row : Row}
    (stored : row ∈ db.rows .sessions) (filled : g.session.IsIn row)
    (now : Timestamp.epoch ≤ g.access.now) (fresh : (drawn ++ [g.access.id]).Nodup)
    (served : db.Serves g.update reply after) :
    Orderly auth.maker (drawn ++ [g.access.id]) (tokens ++ [g.access.token])
        (after.rows .sessions) ∧
      Persists (db.rows .sessions) (after.rows .sessions) := by
  have issued : Token.Issued auth.maker g.access.id g.payload.username seconds g.access.now
      g.access.token g.access.payload := (configured ▸ due.issued).issued
  have new : g.access.id ∉ drawn := fun old =>
    (List.nodup_append.1 fresh).2.2 _ old _ List.mem_cons_self rfl
  rcases served.left with kept | updated
  · rw [kept]
    exact ⟨h.issue new fun t p verified => issued.eq_of_verify now verified ▸ issued.id, .refl _⟩
  · have rows := (Database.answer_setAccess db g.session.id g.access.token
      g.access.payload.expiredAt).2
    rw [updated]
    exact rows ▸ h.setAccess stored filled (due.user ▸ issued) now new

/-- A renewal keeps the rows in order, and every session; if it succeeds, it tells an access token
that was stored. -/
theorem Orderly.renew (backs : Backs database world) (method : r.method = "POST")
    (path : r.path = "/tokens/renew_access")
    (configured : auth.accessLifetime = Config.lifetime seconds)
    (h : Orderly auth.maker drawn tokens ((database s).rows .sessions))
    (since : SinceEpoch ((handle auth r).log world s))
    (fresh : (drawn ++ identifiers ((handle auth r).log world s)).Nodup) :
    Orderly auth.maker (drawn ++ identifiers ((handle auth r).log world s))
        (tokens ++ accessTokens ((handle auth r).log world s))
        ((database ((handle auth r).run world s).2).rows .sessions) ∧
      Persists ((database s).rows .sessions)
        ((database ((handle auth r).run world s).2).rows .sessions) ∧
      ∀ answer, ((handle auth r).run world s).1 = some answer → answer.status = 200 →
        ∃ g : Grant, g.access.token ∈ accessTokens ((handle auth r).log world s) ∧
          answer = .ok g.answer := by
  have told := told_log world (handle auth r) s
  rcases handle_renew_cases world s auth method path with
    ⟨looked, failed⟩ | ⟨g, s₁, due, toldLookups⟩
  · rw [accessTokens_of_lookups looked, List.append_nil, backs.same_of_lookups told looked]
    refine ⟨h.draw _, .refl _, fun answer answered success => ?_⟩
    obtain ⟨failure, rfl, status⟩ := failed answer answered
    exact absurd success (status_ofFailure_ne status)
  · obtain ⟨row, stored, filled, found⟩ := due.found_row backs toldLookups
    rw [(due.log_run method path toldLookups).1] at told since fresh ⊢
    obtain ⟨s₂, lookups, sent⟩ := told.of_append
    have served := backs.serves_of_told sent
    rw [backs.same_of_lookups lookups g.looks] at served
    have now : Timestamp.epoch ≤ g.access.now :=
      since g.access.now (List.mem_append_left _ (g.access_subset g.access.now_mem))
    obtain ⟨orderly, persists⟩ := h.update due configured stored filled now fresh served
    exact ⟨orderly, persists, fun answer answered success => ⟨g, List.mem_cons_self,
      due.answer_of_success method path toldLookups answered success⟩⟩

end

end Teller.Gateway
