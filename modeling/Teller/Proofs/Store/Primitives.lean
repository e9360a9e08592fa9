import Teller.Proofs.Store.Records

/-!
# What the statements of the store do to records

Each statement is sent with its parameters by number, and its answer is read by columns. On tables
of records that comes to what the name of the operation says: a record with every parameter in its
field is added and found again, one field of one record changes, one record goes, and all other
records stay.
-/

namespace Teller.Store

open Database

variable {db : Database} {tables : Tables} {t : Table}

/-- What is answered with the record that was asked for, if there is one. -/
def found {α : Type} : Option α → Except Error α
  | none => .error (.database .rowNotFound)
  | some a => .ok a

/-! ### Lookups -/

/-- A lookup is answered with a record, or not found, and changes nothing. -/
def Finds {α : Type} (db : Database) (get : Interaction (Except Error α)) (a : Option α) : Prop :=
  get.Ensures (fun result after => result = found a ∧ after = db) db

theorem readFirst_matching {records : List t.Record} {rows : List Row}
    (h : List.Forall₂ t.Reads records rows) (v : Value) :
    readFirst t.columns t.read (((rows.filter fun row => row t.keyColumn = v).take 1).map
      (project t.columns)) = found (records.find? fun a => t.key a = v) := by
  induction h with
  | nil => rfl
  | @cons a row records rows reads _ ih =>
    rw [List.filter_cons, List.find?_cons, reads.key]
    by_cases here : t.key a = v
    · have told : t.read (t.columns.zip (project t.columns row)) = .ok a := reads
      simp [here, readFirst, readRow, told, found, Except.mapError]
    · simpa [here] using ih

theorem finds_key (h : db.Holds tables) (t : Table) (v : Value) {extent : Extent}
    (one : extent = .first ∨ extent = .firstLocked) :
    Finds db (fetchFirst (.select t.columns t [(t.keyColumn, 1)] extent) [v] t.read)
      (tables.find? t v) := by
  have meant (row : Row) : [(t.keyColumn, 1)].any (satisfies [v] row) =
      decide (row t.keyColumn = v) := Bool.or_false _
  have taken (rows : List Row) : take [v] rows extent = some (rows.take 1) := by
    rcases one with rfl | rfl <;> rfl
  rw [Finds, ensures_fetchFirst]
  simp only [execute, select, meant, taken]
  exact ⟨readFirst_matching (h.rows t) v, trivial⟩

/-- A lookup by the key of a table finds the record that is meant. -/
theorem finds_record (h : db.Holds tables) {v : Value} {isMeant : t.Record → Prop}
    [DecidablePred isMeant] (meant : ∀ a, t.key a = v ↔ isMeant a) {extent : Extent}
    (one : extent = .first ∨ extent = .firstLocked) :
    Finds db (fetchFirst (.select t.columns t [(t.keyColumn, 1)] extent) [v] t.read)
      ((tables t).find? fun a => isMeant a) := by
  have same : (fun a => decide (t.key a = v)) = fun a => decide (isMeant a) :=
    funext fun a => decide_eq_decide.2 (meant a)
  rw [← same]
  exact finds_key h t v one

/-! ### Insertions -/

/-- A record is created if the schema lets it. Then it is answered, it is the last one of its table,
and a lookup finds it. Otherwise the tables stay as they are. -/
def Creates (db : Database) (tables : Tables) (t : Table) (a : t.Record)
    (create get : Interaction (Except Error t.Record)) : Prop :=
  create.Ensures (fun result after =>
    (tables.Accept t a ∧ result = .ok a ∧ after.Holds (tables.set t (tables t ++ [a])) ∧
        Finds after get (some a)) ∨
      (¬tables.Accept t a ∧ (∃ code detail, result = .error (.database (.rejected code detail))) ∧
        after.Holds tables)) db

theorem Database.Holds.append (h : db.Holds tables) {a : t.Record} {row : Row}
    (reads : t.Reads a row) (accept : tables.Accept t a) :
    (db.setRows t (db.rows t ++ [row])).Holds (tables.set t (tables t ++ [a])) := by
  refine h.set _ (List.rel_append (h.rows t) (.cons reads .nil)) ?_
  rw [List.map_append, List.nodup_append]
  refine ⟨h.distinct t, List.nodup_singleton _, ?_⟩
  simpa using fun b hb same => Table.key_ne_of_apart (accept.apart b hb) same.symm

theorem creates_record (h : db.Holds tables) {values : List (Column × Parameter)}
    {arguments : List Value} {a : t.Record} (reads : t.Reads a (db.newRow t values arguments)) :
    Creates db tables t a (fetchFirst (.insert t values t.columns) arguments t.read)
      (fetchFirst (.select t.columns t [(t.keyColumn, 1)] .first) [t.key a] t.read) := by
  have taken : (db.takeSerial t).Holds tables := h.of_rows rfl
  by_cases accept : tables.Accept t a
  · have inserted : db.insert t values t.columns arguments = _ :=
      insert_of_accepted ((h.accept_iff reads).2 accept)
    have holds := taken.append reads accept
    refine ensures_of_row inserted reads (.inl ⟨accept, rfl, holds, ?_⟩)
    have looked := finds_key holds t (t.key a) (.inl rfl)
    rwa [holds.find?_of_mem (by simp)] at looked
  · cases refused : db.insertionRefused? t (db.newRow t values arguments) with
    | none => exact absurd ((h.accept_iff reads).1 refused) accept
    | some refusal =>
      obtain ⟨code, detail, rfl⟩ := refused_of_insertionRefused? refused
      rw [Creates, ensures_fetchFirst, execute, Database.insert]
      simp only [refused]
      exact .inr ⟨accept, ⟨code, detail, rfl⟩, taken⟩

/-! ### Updates -/

/-- An update changes the one record that it is meant for, unless that is out of range. -/
def Updates (db : Database) (tables : Tables) (t : Table) (isMeant : t.Record → Prop)
    [DecidablePred isMeant] (change : t.Record → Option t.Record)
    (update : Interaction (Except Error t.Record)) : Prop :=
  update.Ensures (fun result after =>
    ((∀ a ∈ tables t, ¬isMeant a) → result = found none ∧ after = db) ∧
      ∀ a ∈ tables t, isMeant a → match change a with
        | none => result = .error outOfRange ∧ after = db
        | some a' => result = .ok a' ∧
          after.Holds (tables.set t ((tables t).map fun b => if isMeant b then a' else b))) db

theorem Updates.of_changed {isMeant : t.Record → Prop} [DecidablePred isMeant]
    {change : t.Record → Option t.Record} {update : Interaction (Except Error t.Record)}
    {a a' : t.Record} (h : Updates db tables t isMeant change update) (mem : a ∈ tables t)
    (here : isMeant a) (changed : change a = some a') :
    update.Ensures (fun result after => result = .ok a' ∧
      after.Holds (tables.set t ((tables t).map fun b => if isMeant b then a' else b))) db :=
  h.mono fun _ _ h => by simpa only [changed] using h.2 a mem here

/-- An update that is meant for no row changes nothing. -/
theorem Database.update_of_none {changes : List (Column × Term)} {key : Column × Parameter}
    {answer : List Column} {arguments : List Value}
    (others : ∀ row ∈ db.rows t, satisfies arguments row key = false) :
    db.update t changes key answer arguments = (.rows [], db) := by
  have changed : (db.rows t).mapM (fun row => if satisfies arguments row key then
      changedRow? arguments row changes else some row) = some (db.rows t) :=
    mapM_eq_some_self fun row mem => by simp [others row mem]
  have answered : (((db.rows t).zip (db.rows t)).filter
      fun pair => satisfies arguments pair.2 key) = [] :=
    List.filter_eq_nil_iff.2 fun pair mem => by simp [others pair.2 (List.of_mem_zip mem).2]
  unfold update
  dsimp only
  rw [changed]
  dsimp only
  rw [answered, setRows_self]
  rfl

theorem updates_record (h : db.Holds tables) {changes : List (Column × Term)}
    {arguments : List Value} {p : Parameter} {isMeant : t.Record → Prop} [DecidablePred isMeant]
    (meant : ∀ a, t.key a = parameter arguments p ↔ isMeant a)
    {change : t.Record → Option t.Record}
    (keeps : ∀ a a', change a = some a' → t.key a' = t.key a)
    (changed : ∀ a row, t.Reads a row → match change a with
      | none => changedRow? arguments row changes = none
      | some a' => ∃ row', changedRow? arguments row changes = some row' ∧ t.Reads a' row') :
    Updates db tables t isMeant change
      (fetchFirst (.update t changes (t.keyColumn, p) t.columns) arguments t.read) := by
  cases found : tables.find? t (parameter arguments p) with
  | none =>
    have apart := Tables.of_find?_eq_none found
    have others : ∀ row ∈ db.rows t, satisfies arguments row (t.keyColumn, p) = false :=
      (h.forall_iff fun a row reads => by
        rw [satisfies, decide_eq_false_iff_not, reads.key]).2 apart
    rw [Updates, ensures_fetchFirst, execute, update_of_none others]
    exact ⟨fun _ => ⟨rfl, rfl⟩, fun a mem here => absurd ((meant a).2 here) (apart a mem)⟩
  | some a =>
    obtain ⟨mem, key⟩ := Tables.of_find?_eq_some found
    obtain ⟨before, row, after, around⟩ := h.around found
    have update : db.update t changes (t.keyColumn, p) t.columns arguments = _ :=
      update_of_one around.rows (decide_eq_true (around.reads.key.trans key))
        fun other hother => decide_eq_false (around.others other hother)
    -- Whoever is meant is this one record.
    have unique (b : t.Record) (hb : b ∈ tables t) (here : isMeant b) : b = a := by
      rw [← (meant b).2 here, h.find?_of_mem hb] at found
      exact Option.some.inj found
    have outcome := changed a row around.reads
    cases different : change a with
    | none =>
      rw [different] at outcome
      rw [outcome] at update
      rw [Updates, ensures_fetchFirst, execute, update]
      refine ⟨fun none => absurd ((meant a).1 key) (none a mem), fun b hb here => ?_⟩
      rw [unique b hb here, different]
      exact ⟨rfl, rfl⟩
    | some a' =>
      rw [different] at outcome
      obtain ⟨row', changed, reads'⟩ := outcome
      rw [changed] at update
      refine ensures_of_row update reads'
        ⟨fun none => absurd ((meant a).1 key) (none a mem), fun b hb here => ?_⟩
      have holds := around.replaced a' row' reads' ((keeps a a' different).trans key)
      simp only [meant] at holds
      rw [unique b hb here, different]
      exact ⟨rfl, holds⟩

/-- Another balance in the record of an account. -/
theorem updates_balance (h : db.Holds tables) (id : Id) (n : Int64) :
    Updates db tables .accounts (fun a => a.id = id)
      (fun a : Account => (Amount.add? a.balance n).map fun sum => { a with balance := sum })
      (addBalance id n) := by
  refine updates_record (t := .accounts) h ?_ ?_ ?_
  · exact fun a => .of_eq (Value.integer.injEq ..)
  · intro a a' changed
    obtain ⟨sum, -, rfl⟩ := Option.map_eq_some_iff.1 changed
    rfl
  · intro a row reads
    obtain ⟨hid, owner, currency, balance, createdAt⟩ := Account.ofCells_eq_ok_iff.1 reads
    rw [changedRow?_balance balance]
    cases Amount.add? a.balance n with
    | none => rfl
    | some sum =>
      exact ⟨_, rfl, Account.ofCells_eq_ok_iff.2 ⟨hid, owner, currency, rfl, createdAt⟩⟩

/-- Another access token in the record of a session. -/
theorem updates_access (h : db.Holds tables) (id : Uuid) (token : String) (expiresAt : Timestamp) :
    Updates db tables .sessions (fun s => s.id = id)
      (fun s : Session => some { s with accessToken := token, accessExpiresAt := expiresAt })
      (setAccess id token expiresAt) := by
  refine updates_record (t := .sessions) h ?_ ?_ ?_
  · exact fun s => .of_eq (Value.uuid.injEq ..)
  · rintro s s' ⟨⟩
    rfl
  · intro s row reads
    refine ⟨withAccess token expiresAt row, congrArg some (funext fun c => ?_), ?_⟩
    · cases c <;> rfl
    · exact Session.ofCells_eq_ok_iff.2
        ((Session.ofCells_eq_ok_iff.1 reads).withAccess token expiresAt)

/-! ### Deletions -/

/-- A deletion takes away the one account that it is meant for, unless an entry or a transfer names
it. -/
def Deletes (db : Database) (tables : Tables) (id : Id) (delete : Interaction (Except Error Unit)) :
    Prop :=
  delete.Ensures (fun result after =>
    ((∀ a ∈ tables .accounts, a.id ≠ id) → result = found none ∧ after = db) ∧
      ∀ a ∈ tables .accounts, a.id = id →
        (tables.Name id → (∃ detail, result =
          .error (.database (.rejected (some Error.foreignKeyViolation) detail))) ∧ after = db) ∧
        (¬tables.Name id → result = .ok () ∧ after.Holds
          (tables.set .accounts ((tables .accounts).filter fun b => b.id ≠ id)))) db

theorem Database.delete_eq (db : Database) (t : Table) (v : Value) :
    db.delete t (t.keyColumn, 1) [v] =
      let meant := (db.rows t).filter fun row => row t.keyColumn = v
      let kept := (db.rows t).filter fun row => row t.keyColumn ≠ v
      if meant.any (db.isReferenced t) then (referenceRefused, db)
      else (.affected meant.length, db.setRows t kept) := by
  have satisfied (row : Row) : satisfies [v] row (t.keyColumn, 1) =
      decide (row t.keyColumn = v) := rfl
  simp only [delete, List.partition_eq_filter_filter, satisfied, Function.comp_def, decide_not]

theorem ensures_deleteAccount {id : Id} {post : Except Error Unit → Database → Prop} {reply : Reply}
    {after : Database} (deleted : db.delete .accounts (.id, 1) [.integer id] = (reply, after)) :
    (deleteAccount id).Ensures post db ↔
      post (do if (← reply.count?) = 0 then throw (.database .rowNotFound)) after := by
  have executed : db.execute [.integer id] .deleteAccount = (reply, after) := deleted
  change post (do if (← (db.execute [.integer id] .deleteAccount).1.count?) = 0 then
    throw (.database .rowNotFound)) (db.execute [.integer id] .deleteAccount).2 ↔ _
  rw [executed]

/-- A deletion where no record has the key leaves the database as it was. -/
theorem Database.Holds.delete_of_none (h : db.Holds tables) {v : Value}
    (found : tables.find? t v = none) : db.delete t (t.keyColumn, 1) [v] = (.affected 0, db) := by
  have apart := Tables.of_find?_eq_none found
  obtain ⟨none, all⟩ := filter_of_apart
    ((h.forall_iff fun a row reads => not_congr (Eq.congr_left reads.key)).2 apart)
  rw [delete_eq, none, all]
  dsimp only
  rw [setRows_self]
  rfl

/-- Of a deletion it counts whether the one row with the key is referred to. -/
theorem Database.Holds.delete_of_some (h : db.Holds tables) {v : Value} {a : t.Record}
    (found : tables.find? t v = some a) :
    ∃ before row after, Holds.Around db tables t v a before row after ∧
      db.delete t (t.keyColumn, 1) [v] =
        if db.isReferenced t row then (referenceRefused, db)
        else (.affected 1, db.setRows t (before ++ after)) := by
  obtain ⟨before, row, after, around⟩ := h.around found
  obtain ⟨beforeApart, afterApart⟩ := List.forall_mem_append.1 around.others
  have meant : row t.keyColumn = v :=
    around.reads.key.trans (Tables.of_find?_eq_some found).2
  have one : ((db.rows t).filter fun row => row t.keyColumn = v) = [row] := by
    rw [around.rows, List.filter_append, List.filter_cons, (filter_of_apart beforeApart).1,
      (filter_of_apart afterApart).1]
    simp [meant]
  have kept : ((db.rows t).filter fun row => row t.keyColumn ≠ v) = before ++ after := by
    rw [around.rows, List.filter_append, List.filter_cons, (filter_of_apart beforeApart).2,
      (filter_of_apart afterApart).2]
    simp [meant]
  refine ⟨before, row, after, around, ?_⟩
  rw [delete_eq, one, kept]
  simp

theorem deletes_account (h : db.Holds tables) (id : Id) :
    Deletes db tables id (deleteAccount id) := by
  have key (a : Account) : Table.accounts.key a = .integer id ↔ a.id = id :=
    .of_eq (Value.integer.injEq ..)
  cases found : tables.find? .accounts (.integer id) with
  | none =>
    have apart := Tables.of_find?_eq_none found
    exact (ensures_deleteAccount (h.delete_of_none found)).2
      ⟨fun _ => ⟨rfl, rfl⟩, fun a mem here => absurd ((key a).2 here) (apart a mem)⟩
  | some a =>
    obtain ⟨mem, same⟩ := Tables.of_find?_eq_some found
    have here : a.id = id := (key a).1 same
    obtain ⟨before, row, after, around, deleted⟩ := h.delete_of_some found
    have named := h.isReferenced_iff around.reads
    rw [here] at named
    by_cases name : tables.Name id
    · rw [if_pos (named.2 name)] at deleted
      exact (ensures_deleteAccount deleted).2 ⟨fun none => absurd here (none a mem),
        fun _ _ _ => ⟨fun _ => ⟨⟨_, rfl⟩, rfl⟩, fun unnamed => absurd name unnamed⟩⟩
    · rw [if_neg (mt named.1 name)] at deleted
      have holds := around.removed
      simp only [ne_eq, key] at holds
      exact (ensures_deleteAccount deleted).2 ⟨fun none => absurd here (none a mem),
        fun _ _ _ => ⟨fun yes => absurd yes name, fun _ => ⟨rfl, holds⟩⟩⟩

/-! ### The primitives -/

/-- Each primitive carries its parameters into the fields of their names, and out of them again. -/
structure CarryRecords (db : Database) (tables : Tables) : Prop where
  createsUser (username fullName email passwordHash : String) : Creates db tables .users
    (⟨username, fullName, email, passwordHash, neverChanged, db.now⟩ : User)
    (insertUser username fullName email passwordHash) (user username)
  createsAccount (owner currency : String) (balance : Int64) :
    let id := db.serials .accounts + 1
    Creates db tables .accounts (⟨id, owner, currency, balance, db.now⟩ : Account)
      (insertAccount owner currency balance) (account id)
  createsEntry (holder : Id) (amount : Int64) :
    let id := db.serials .entries + 1
    Creates db tables .entries (⟨id, holder, amount, db.now⟩ : Entry)
      (insertEntry holder amount) (entry id)
  createsTransfer (source target : Id) (amount : Int64) :
    let id := db.serials .transfers + 1
    Creates db tables .transfers (⟨id, source, target, amount, db.now⟩ : Transfer)
      (insertTransfer source target amount) (transfer id)
  createsSession (login : Login) : Creates db tables .sessions
    (⟨login.id, login.username, login.accessToken, login.accessExpiresAt, login.refreshToken,
      login.refreshExpiresAt, login.userAgent, login.clientIp, false, db.now⟩ : Session)
    (insertSession login) (session login.id)
  findsUser (username : String) :
    Finds db (user username) ((tables .users).find? fun u => u.username = username)
  findsAccount (id : Id) : Finds db (account id) ((tables .accounts).find? fun a => a.id = id)
  findsLockedAccount (id : Id) :
    Finds db (lockedAccount id) ((tables .accounts).find? fun a => a.id = id)
  findsEntry (id : Id) : Finds db (entry id) ((tables .entries).find? fun e => e.id = id)
  findsTransfer (id : Id) : Finds db (transfer id) ((tables .transfers).find? fun t => t.id = id)
  findsSession (id : Uuid) : Finds db (session id) ((tables .sessions).find? fun s => s.id = id)
  updatesBalance (id : Id) (n : Int64) : Updates db tables .accounts (fun a => a.id = id)
    (fun a : Account => (Amount.add? a.balance n).map fun sum => { a with balance := sum })
    (addBalance id n)
  updatesAccess (id : Uuid) (token : String) (expiresAt : Timestamp) :
    Updates db tables .sessions (fun s => s.id = id)
      (fun s : Session => some { s with accessToken := token, accessExpiresAt := expiresAt })
      (setAccess id token expiresAt)
  deletesAccount (id : Id) : Deletes db tables id (deleteAccount id)

theorem primitives_carry_records (h : db.Holds tables) : CarryRecords db tables where
  createsUser _ _ _ _ := creates_record (t := .users) h
    (User.ofCells_eq_ok_iff.2 ⟨rfl, rfl, rfl, rfl, rfl, rfl⟩)
  createsAccount _ _ _ := creates_record (t := .accounts) h
    (Account.ofCells_eq_ok_iff.2 ⟨rfl, rfl, rfl, rfl, rfl⟩)
  createsEntry _ _ := creates_record (t := .entries) h
    (Entry.ofCells_eq_ok_iff.2 ⟨rfl, rfl, rfl, rfl⟩)
  createsTransfer _ _ _ := creates_record (t := .transfers) h
    (Transfer.ofCells_eq_ok_iff.2 ⟨rfl, rfl, rfl, rfl, rfl⟩)
  createsSession _ := creates_record (t := .sessions) h
    (Session.ofCells_eq_ok_iff.2 ⟨rfl, rfl, rfl, rfl, rfl, rfl, rfl, rfl, rfl, rfl⟩)
  findsUser _ := finds_record (t := .users) h (fun _ => .of_eq (Value.text.injEq ..)) (.inl rfl)
  findsAccount _ := finds_record (t := .accounts) h (fun _ => .of_eq (Value.integer.injEq ..))
    (.inl rfl)
  findsLockedAccount _ := finds_record (t := .accounts) h
    (fun _ => .of_eq (Value.integer.injEq ..)) (.inr rfl)
  findsEntry _ := finds_record (t := .entries) h (fun _ => .of_eq (Value.integer.injEq ..))
    (.inl rfl)
  findsTransfer _ := finds_record (t := .transfers) h (fun _ => .of_eq (Value.integer.injEq ..))
    (.inl rfl)
  findsSession _ := finds_record (t := .sessions) h (fun _ => .of_eq (Value.uuid.injEq ..))
    (.inl rfl)
  updatesBalance := updates_balance h
  updatesAccess := updates_access h
  deletesAccount := deletes_account h

/-- The row of a user, dated as it is. -/
def userRow (u : User) : Row
  | .username => .text u.username
  | .fullName => .text u.fullName
  | .email => .text u.email
  | .passwordHash => .text u.passwordHash
  | .passwordChangedAt => .instant u.passwordChangedAt
  | .createdAt => .instant u.createdAt
  | _ => .null

/-- In a bank of one user with one account, a session is opened from nowhere and found again, the
account is credited or deleted, and another one is not found. -/
theorem adas_records_carried :
    let ada : User := ⟨"ada", "Ada", "ada@bank.org", "", neverChanged, .epoch⟩
    let savings : Account := ⟨1, "ada", "EUR", 100, .epoch⟩
    let login : Login := ⟨⟨7⟩, "ada", "access", .epoch, "refresh", .epoch, none, none⟩
    let db := (Database.holding [savings]).setRows .users [userRow ada]
    let tables := (Tables.ofAccounts [savings]).set .users [ada]
    db.Holds tables ∧
      (insertSession login).Ensures (fun result after =>
        result = .ok (login.session .epoch) ∧ Finds after (session ⟨7⟩) (login.session .epoch)) db ∧
      (addBalance 1 30).Ensures (fun result after =>
        result = .ok { savings with balance := 130 } ∧
          after.Holds (tables.set .accounts [{ savings with balance := 130 }])) db ∧
      Finds db (account 7) none ∧
      (deleteAccount 1).Ensures
        (fun result after => result = .ok () ∧ after.Holds (tables.set .accounts [])) db := by
  intro ada savings login db tables
  have bank : (Database.holding [savings]).Holds (.ofAccounts [savings]) := .holding (by decide)
  have holds : db.Holds tables := bank.set _
    (.cons (User.ofCells_eq_ok_iff.2 ⟨rfl, rfl, rfl, rfl, rfl, rfl⟩) .nil) (by decide)
  have there : savings ∈ tables .accounts := List.mem_singleton_self savings
  have sum : Amount.add? savings.balance 30 = some 130 := by decide
  have carried := primitives_carry_records holds
  refine ⟨holds, (carried.createsSession login).mono ?_,
    (carried.updatesBalance 1 30).of_changed there rfl (congrArg (Option.map _) sum),
    carried.findsAccount 7, (carried.deletesAccount 1).mono ?_⟩
  · rintro result after (⟨-, same, -, finds⟩ | ⟨refused, -⟩)
    · exact ⟨same, finds⟩
    · exact absurd ⟨List.forall_mem_nil _, ada, List.mem_singleton_self ada, rfl⟩ refused
  · intro result after h
    refine (h.2 savings there rfl).2 ?_
    rintro (⟨_, none, _⟩ | ⟨_, none, _⟩ | ⟨_, none, _⟩) <;> exact nomatch none

end Teller.Store
