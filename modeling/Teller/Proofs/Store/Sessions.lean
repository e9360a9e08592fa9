import Mathlib.Data.List.Nodup
import Teller.Proofs.Store.Tables

/-!
# Sessions in the database

What the three statements about sessions do to the rows of their table, where each row can be read
as a session: one row is added, one is found by its identifier, and one is given another access
token.
-/

namespace Teller

open Store

/-- The row of a session. -/
structure Session.IsIn (session : Session) (row : Row) : Prop where
  id : row .id = .uuid session.id
  username : row .username = .text session.username
  accessToken : row .accessToken = .text session.accessToken
  accessExpiresAt : row .accessExpiresAt = .instant session.accessExpiresAt
  refreshToken : row .refreshToken = .text session.refreshToken
  refreshExpiresAt : row .refreshExpiresAt = .instant session.refreshExpiresAt
  userAgent : row .userAgent = .ofText? session.userAgent
  clientIp : row .clientIp = .ofText? session.clientIp
  isBlocked : row .isBlocked = .boolean session.isBlocked
  createdAt : row .createdAt = .instant session.createdAt

/-- A row is read as the session whose row it is. -/
theorem Session.ofCells_eq_ok_iff {session : Session} {row : Row} :
    ofCells (columns.zip (Database.project columns row)) = .ok session ↔ session.IsIn row := by
  simp (disch := decide) only [ofCells, bind_eq_ok_iff, get_project, Value.uuid?_eq_some_iff,
    Value.text?_eq_some_iff, Value.instant?_eq_some_iff, Value.boolean?_eq_some_iff,
    Value.optionalText?_eq_some_iff]
  constructor
  · rintro ⟨_, id, _, username, _, accessToken, _, accessExpiresAt, _, refreshToken, _,
      refreshExpiresAt, _, userAgent, _, clientIp, _, isBlocked, _, createdAt, same⟩
    cases same
    exact ⟨id, username, accessToken, accessExpiresAt, refreshToken, refreshExpiresAt, userAgent,
      clientIp, isBlocked, createdAt⟩
  · intro h
    exact ⟨_, h.id, _, h.username, _, h.accessToken, _, h.accessExpiresAt, _, h.refreshToken, _,
      h.refreshExpiresAt, _, h.userAgent, _, h.clientIp, _, h.isBlocked, _, h.createdAt, rfl⟩

/-- A row is that of one session only. -/
theorem Session.IsIn.eq {session other : Session} {row : Row} (h : session.IsIn row)
    (h' : other.IsIn row) : other = session :=
  Except.ok.inj ((ofCells_eq_ok_iff.2 h').symm.trans (ofCells_eq_ok_iff.2 h))

/-! ### What the statements do -/

/-- A row with another access token. -/
def Store.withAccess (token : String) (expiresAt : Timestamp) (row : Row) : Row
  | .accessToken => .text token
  | .accessExpiresAt => .instant expiresAt
  | c => row c

theorem Session.IsIn.withAccess {session : Session} {row : Row} (h : session.IsIn row)
    (token : String) (expiresAt : Timestamp) :
    { session with accessToken := token, accessExpiresAt := expiresAt }.IsIn
      (Store.withAccess token expiresAt row) :=
  ⟨h.id, h.username, rfl, rfl, h.refreshToken, h.refreshExpiresAt, h.userAgent, h.clientIp,
    h.isBlocked, h.createdAt⟩

/-- A row in which a session is blocked or not. -/
def Store.withBlocked (isBlocked : Bool) (row : Row) : Row
  | .isBlocked => .boolean isBlocked
  | c => row c

theorem Session.IsIn.withBlocked {session : Session} {row : Row} (h : session.IsIn row)
    (isBlocked : Bool) :
    { session with isBlocked := isBlocked }.IsIn (Store.withBlocked isBlocked row) :=
  ⟨h.id, h.username, h.accessToken, h.accessExpiresAt, h.refreshToken, h.refreshExpiresAt,
    h.userAgent, h.clientIp, rfl, h.createdAt⟩

namespace Store

/-- The session that is opened at a time. -/
def Login.session (l : Login) (now : Timestamp) : Session :=
  ⟨l.id, l.username, l.accessToken, l.accessExpiresAt, l.refreshToken, l.refreshExpiresAt,
    l.userAgent, l.clientIp, false, now⟩

/-- What is sent to open a session. -/
def Login.request (l : Login) : Request :=
  .query .insertSession [.uuid l.id, .text l.username, .text l.accessToken,
    .instant l.accessExpiresAt, .text l.refreshToken, .instant l.refreshExpiresAt,
    .ofText? l.userAgent, .ofText? l.clientIp]

theorem eq_of_same_id {rows : List Row} (distinct : (rows.map fun row => row .id).Nodup)
    {row other : Row} (h : row ∈ rows) (h' : other ∈ rows) (same : row .id = other .id) :
    row = other := List.inj_on_of_nodup_map distinct h h' same

/-- Where no two rows have the same identifier, each is the only one with its own. -/
theorem filter_same_id {rows : List Row} (distinct : (rows.map fun row => row .id).Nodup)
    {row : Row} (h : row ∈ rows) : (rows.filter fun other => other .id = row .id) = [row] := by
  induction rows with
  | nil => cases h
  | cons first rows ih =>
    obtain ⟨new, distinct⟩ := List.nodup_cons.1 distinct
    rcases List.mem_cons.1 h with rfl | later
    · have none : (rows.filter fun other => other .id = row .id) = [] :=
        List.filter_eq_nil_iff.2 fun other mem same =>
          new (List.mem_map.2 ⟨other, mem, of_decide_eq_true same⟩)
      simp [none]
    · have other : ¬first .id = row .id := fun same =>
        new (List.mem_map.2 ⟨row, later, same.symm⟩)
      simp [other, ih distinct later]

namespace Database

variable (db : Database)

/-- Opening a session is refused, or adds its row. -/
theorem answer_login (l : Login) :
    ((∃ code detail, (db.answer l.request).1 = .refused code detail) ∧
        (db.answer l.request).2.rows .sessions = db.rows .sessions) ∨
      ∃ row, (l.session db.now).IsIn row ∧
        row .id ∉ (db.rows .sessions).map (fun row => row .id) ∧
        (db.answer l.request).1 = .rows [project Session.columns row] ∧
        (db.answer l.request).2.rows .sessions = db.rows .sessions ++ [row] := by
  simp only [answer, Login.request, execute, Statement.insertSession, insert]
  generalize hrow : db.newRow .sessions _ _ = row
  have filled : (l.session db.now).IsIn row := by
    subst hrow
    exact ⟨rfl, rfl, rfl, rfl, rfl, rfl, rfl, rfl, rfl, rfl⟩
  cases h : db.insertionRefused? .sessions row with
  | some refusal => exact .inl ⟨refused_of_insertionRefused? h, rfl⟩
  | none =>
    exact .inr ⟨row, filled, fresh_of_not_insertionRefused? h List.mem_cons_self, rfl,
      rows_setRows_self _ _ _⟩

/-- The row with an identifier, if there is one, is found. -/
theorem answer_session (id : Uuid) :
    db.answer (.query .session [.uuid id]) =
      (.rows ((((db.rows .sessions).filter fun row => row .id = .uuid id).take 1).map
        (project Session.columns)), db) := by
  have meant (row : Row) : [(Column.id, 1)].any (satisfies [.uuid id] row) =
      decide (row .id = .uuid id) := Bool.or_false _
  simp only [answer, execute, Statement.session, select, meant, take]

theorem answer_setAccess (id : Uuid) (token : String) (expiresAt : Timestamp) :
    (db.answer (.query .setAccess [.uuid id, .text token, .instant expiresAt])).1 =
        .rows (((db.rows .sessions).filter fun row => row .id = .uuid id).map fun row =>
          project Session.columns (withAccess token expiresAt row)) ∧
      (db.answer (.query .setAccess [.uuid id, .text token, .instant expiresAt])).2.rows .sessions =
        (db.rows .sessions).map fun row =>
          if row .id = .uuid id then withAccess token expiresAt row else row := by
  have meant (row : Row) : satisfies [.uuid id, .text token, .instant expiresAt] row (.id, 1) =
      decide (row .id = .uuid id) := rfl
  have changed (row : Row) : changedRow? [.uuid id, .text token, .instant expiresAt] row
      [(.accessToken, .parameter 2), (.accessExpiresAt, .parameter 3)] =
        some (withAccess token expiresAt row) := by
    refine congrArg some (funext fun c => ?_)
    cases c <;> rfl
  have all (rows : List Row) : (rows.mapM fun row => if row .id = .uuid id then
      some (withAccess token expiresAt row) else some row) = some (rows.map fun row =>
        if row .id = .uuid id then withAccess token expiresAt row else row) := by
    simp only [← apply_ite some]
    exact List.mapM_pure
  have answered (rows : List Row) : (((rows.map fun row =>
      if row .id = .uuid id then withAccess token expiresAt row else row).zip rows).filter
        fun pair => pair.2 .id = .uuid id).map (fun pair => project Session.columns pair.1) =
      (rows.filter fun row => row .id = .uuid id).map fun row =>
        project Session.columns (withAccess token expiresAt row) := by
    induction rows with
    | nil => rfl
    | cons row rows ih => by_cases same : row .id = .uuid id <;> simp [same, ih]
  simp only [answer, execute, Statement.setAccess, update, meant, changed, decide_eq_true_eq, all,
    rows_setRows_self, and_true]
  exact congrArg Reply.rows (answered _)

end Database

end Store

end Teller
