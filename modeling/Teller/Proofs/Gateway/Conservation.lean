import Teller.Gateway.Router
import Teller.Proofs.Ledger.Stored

/-!
# Money and requests

Whatever is requested of the service, in whatever order and by whomever, the money stays sound. Most
requests leave accounts and entries alone. An account is opened with a balance of zero and closed
only if no entry names it, and a transfer moves money between two accounts of one currency.
-/

namespace Teller.Gateway

open Store Store.Database

variable {α β : Type}

namespace Handler

/-- Leaves the rows of accounts and of entries as they are. -/
def Quiet (x : Handler α) : Prop := Interaction.Quiet x.run

/-- Keeps the money sound, and deletes no account but with a balance of zero. -/
def Fair (x : Handler α) : Prop := Interaction.Fair x.run

theorem quiet_pure (a : α) : (pure a : Handler α).Quiet := Interaction.quiet_pure _

theorem quiet_throw (f : Failure) : (throw f : Handler α).Quiet := Interaction.quiet_pure _

theorem quiet_ofExcept (x : Except Failure α) : (ofExcept x).Quiet := Interaction.quiet_pure _

theorem quiet_lift {x : Interaction α} (hx : x.Quiet) : (liftM x : Handler α).Quiet :=
  Interaction.Quiet.bind hx fun _ => Interaction.quiet_pure _

theorem Quiet.bind {x : Handler α} {f : α → Handler β} (hx : x.Quiet) (hf : ∀ a, (f a).Quiet) :
    (x >>= f).Quiet := by
  refine Interaction.Quiet.bind hx fun result => ?_
  cases result with
  | ok a => exact hf a
  | error e => exact Interaction.quiet_pure _

/-- Money is where it was before the fair part, which therefore begins with sound tables. -/
theorem Quiet.bind_fair {x : Handler α} {f : α → Handler β} (hx : x.Quiet)
    (hf : ∀ a, (f a).Fair) : (x >>= f).Fair := by
  refine Interaction.Quiet.bind_fair hx fun result => ?_
  cases result with
  | ok a => exact hf a
  | error e => exact (Interaction.quiet_pure _).fair

theorem Fair.bind_quiet {x : Handler α} {f : α → Handler β} (hx : x.Fair)
    (hf : ∀ a, (f a).Quiet) : (x >>= f).Fair := by
  refine Interaction.Fair.bind_quiet hx fun result => ?_
  cases result with
  | ok a => exact hf a
  | error e => exact Interaction.quiet_pure _

theorem quiet_store {x : Interaction (Except Store.Error α)} (hx : x.Quiet) : (store x).Quiet :=
  (quiet_lift hx).bind fun result => by
    cases result with
    | ok a => exact quiet_pure a
    | error e => exact quiet_throw _

theorem quiet_find {absent : String} {x : Interaction (Except Store.Error α)} (hx : x.Quiet) :
    (find absent x).Quiet :=
  (quiet_lift hx).bind fun result => by
    cases result with
    | ok a => exact quiet_pure a
    | error e =>
      dsimp only
      split <;> exact quiet_throw _

/-- The store is as fair as what it is asked to do. -/
theorem fair_store {x : Interaction (Except Store.Error α)} (hx : x.Fair) : (store x).Fair := by
  refine Fair.bind_quiet (Interaction.Fair.bind_quiet hx fun _ => Interaction.quiet_pure _) ?_
  intro result
  cases result with
  | ok a => exact quiet_pure a
  | error e => exact quiet_throw _

/-- A condition under which a handler does not go on. -/
theorem quiet_unless {c : Prop} [Decidable c] {f : Failure} {rest : Handler α}
    (h : rest.Quiet) : (if c then throw f >>= fun _ : PUnit => rest else rest).Quiet := by
  split
  · exact (quiet_throw f).bind fun _ => h
  · exact h

/-- Goes on after a handler, or ends with its failure. -/
theorem ensures_bind {db : Database} {x : Handler α} {f : α → Handler β}
    {mid : Except Failure α → Database → Prop} {post : Except Failure β → Database → Prop}
    (hx : x.run.Ensures mid db) (done : ∀ a db', mid (.ok a) db' → (f a).run.Ensures post db')
    (failed : ∀ e db', mid (.error e) db' → post (.error e) db') :
    (x >>= f).run.Ensures post db := by
  refine Interaction.Ensures.bind hx fun result db' h => ?_
  cases result with
  | ok a => exact done a db' h
  | error e => exact failed e db' h

/-- Finds what the store finds, or ends with a failure. -/
theorem ensures_find {absent : String} {db : Database} {x : Interaction (Except Store.Error α)}
    {mid : Except Store.Error α → Database → Prop} {post : Except Failure α → Database → Prop}
    (hx : x.Ensures mid db) (done : ∀ a db', mid (.ok a) db' → post (.ok a) db')
    (failed : ∀ e f db', mid (.error e) db' → post (.error f) db') :
    (find absent x).run.Ensures post db := by
  refine Interaction.Ensures.bind (Interaction.Ensures.bind hx fun result db' h => ?_)
    fun result db' (h : ∃ found, result = .ok found ∧ mid found db') => ?_
  · exact ⟨result, rfl, h⟩
  · obtain ⟨found, rfl, h⟩ := h
    cases found with
    | ok a => exact done a db' h
    | error e =>
      change Interaction.Ensures post (ExceptT.run (if e.isNotFound then _ else _)) db'
      split
      · exact failed e _ db' h
      · exact failed e _ db' h

end Handler

/-! ### Tokens and forms -/

open Handler

theorem quiet_issue (auth : Authority) (username : String) (lifetime : Duration) :
    (auth.issue username lifetime).Quiet := by
  refine (quiet_lift Interaction.quiet_identifier).bind fun id => ?_
  refine (quiet_lift (Interaction.quiet_time .tokens)).bind fun now => ?_
  refine (quiet_lift Interaction.quiet_nonce).bind fun nonce => ?_
  exact quiet_ofExcept _

theorem quiet_verify (auth : Authority) (token : String) : (auth.verify token).Quiet :=
  (quiet_lift (Interaction.quiet_time .tokens)).bind fun _ => quiet_ofExcept _

theorem quiet_authenticate (auth : Authority) (headers : Headers) :
    (auth.authenticate headers).Quiet :=
  (quiet_lift (Interaction.quiet_time .tokens)).bind fun _ => quiet_ofExcept _

theorem quiet_ofRequest {γ : Type} (form : Form γ) (r : Request) : (form.ofRequest r).Quiet :=
  quiet_ofExcept _

/-! ### Users and sessions -/

theorem quiet_health : health.Quiet := by
  refine (quiet_lift Interaction.quiet_ping).bind fun result => ?_
  cases result with
  | error e => exact quiet_throw _
  | ok _ => exact (quiet_lift (Interaction.quiet_time .wall)).bind fun now => quiet_pure _

theorem quiet_signUp (r : Request) : (signUp r).Quiet := by
  refine (quiet_ofRequest SignUp.form r).bind fun form => ?_
  refine (quiet_lift Interaction.quiet_salt).bind fun salt => ?_
  have inserted (hash : String) :
      (Store.insertUser form.username form.fullName form.email hash).Quiet :=
    Interaction.quiet_insert (by decide) (by decide) _ _
  exact (quiet_store (inserted _)).bind fun user => quiet_pure _

/-- A login writes into the table of sessions only. -/
theorem quiet_login (auth : Authority) (r : Request) : (login auth r).Quiet := by
  refine (quiet_ofRequest Login.form r).bind fun form => ?_
  have found : (find "user not found" (Store.user form.username)).Quiet :=
    quiet_find (Interaction.quiet_select _ _ _ _)
  refine found.bind fun user => ?_
  have checked : (checkPassword form.password user).Quiet := quiet_ofExcept _
  refine checked.bind fun _ => ?_
  refine (quiet_issue auth user.username auth.accessLifetime).bind fun access => ?_
  refine (quiet_issue auth user.username auth.refreshLifetime).bind fun refresh => ?_
  have inserted (login : Store.Login) : (Store.insertSession login).Quiet :=
    Interaction.quiet_insert (by decide) (by decide) _ _
  exact (quiet_store (inserted _)).bind fun session => quiet_pure _

/-- So does a renewal. -/
theorem quiet_renew (auth : Authority) (r : Request) : (renew auth r).Quiet := by
  refine (quiet_ofRequest Renewal.form r).bind fun form => ?_
  refine (quiet_verify auth form.refreshToken).bind fun payload => ?_
  have found : (find "session not found" (Store.session payload.id)).Quiet :=
    quiet_find (Interaction.quiet_select _ _ _ _)
  refine found.bind fun session => ?_
  refine (quiet_lift (Interaction.quiet_time .wall)).bind fun now => ?_
  have checked : (ofExcept (checkSession session payload form.refreshToken now)).Quiet :=
    quiet_ofExcept _
  refine checked.bind fun _ => ?_
  refine (quiet_issue auth payload.username auth.accessLifetime).bind fun access => ?_
  have updated (token : String) (expiresAt : Timestamp) :
      (Store.setAccess session.id token expiresAt).Quiet :=
    Interaction.quiet_update (by decide) (by decide) _ _ _
  exact (quiet_store (updated _ _)).bind fun _ => quiet_pure _

/-! ### Accounts -/

theorem fair_openAccount (payload : Token.Payload) (r : Request) :
    (openAccount payload r).Fair := by
  refine (quiet_ofRequest Opening.form r).bind_fair fun form => ?_
  have opened := Interaction.fair_insertAccount payload.username form.currency
  exact (fair_store opened).bind_quiet fun account => quiet_pure _

theorem quiet_ownAccount (payload : Token.Payload) (segment : String) :
    (ownAccount payload segment).Quiet := by
  refine (quiet_ofExcept _).bind fun id => quiet_unless ?_
  have found : (find (absentAccount id) (Store.account id.toInt)).Quiet :=
    quiet_find (Interaction.quiet_select _ _ _ _)
  exact found.bind fun account => quiet_unless (quiet_pure account)

theorem quiet_readAccount (payload : Token.Payload) (segment : String) :
    (readAccount payload segment).Quiet :=
  (quiet_ownAccount payload segment).bind fun _ => quiet_pure _

theorem fair_closeAccount (payload : Token.Payload) (segment : String) :
    (closeAccount payload segment).Fair := by
  refine (quiet_ownAccount payload segment).bind_fair fun account => ?_
  have deleted := Interaction.fair_deleteAccount account.id
  exact (fair_store deleted).bind_quiet fun _ => quiet_pure _

theorem quiet_listAccounts (payload : Token.Payload) (r : Request) :
    (listAccounts payload r).Quiet := by
  refine (quiet_ofExcept _).bind fun window => ?_
  have listed : (Store.accountsOf payload.username window).Quiet :=
    Interaction.quiet_selectAll _ _ _ _
  exact (quiet_store listed).bind fun accounts => quiet_pure _

/-! ### Transfers -/

/-- There is an account with this identifier and this currency. -/
def Holds (currency : String) (id : Id) (db : Database) : Prop :=
  ∃ a ∈ db.rows .accounts, a .id = .integer id ∧ a .currency = .text currency

/-- An account keeps its currency while the money stays where it is. -/
theorem Holds.of_same {currency : String} {id : Id} {db db' : Database}
    (h : Holds currency id db) (same : SameMoney db db') : Holds currency id db' := by
  unfold Holds
  rw [same.accounts]
  exact h

/-- An account that is read was found in its table. -/
theorem ensures_account (id : Id) (db : Database) :
    (Store.account id).Ensures (fun result after => SameMoney db after ∧
      ∀ a, result = .ok a → Holds a.currency id after) db := by
  rw [Store.account, ensures_fetchFirst]
  refine ⟨.refl db, fun a ha => ?_⟩
  change readFirst Account.columns Account.ofCells ((((db.rows .accounts).filter fun row =>
    [(Column.id, 1)].any (satisfies [.integer id] row)).take 1).map (project Account.columns)) =
      .ok a at ha
  cases found : (db.rows .accounts).filter fun row =>
      [(Column.id, 1)].any (satisfies [.integer id] row) with
  | nil =>
    rw [found] at ha
    cases ha
  | cons row rest =>
    rw [found] at ha
    change (Account.ofCells (Account.columns.zip (project Account.columns row))).mapError _ = _ at ha
    obtain ⟨hrow, meant⟩ := List.mem_filter.1 (found ▸ List.mem_cons_self (a := row) (l := rest))
    rw [List.any_cons, List.any_nil, Bool.or_false] at meant
    cases read : Account.ofCells (Account.columns.zip (project Account.columns row)) with
    | error e =>
      rw [read] at ha
      cases ha
    | ok b =>
      rw [read] at ha
      cases ha
      exact ⟨row, hrow, of_decide_eq_true meant, (Account.ofCells_eq_ok_iff.1 read).2.2.1⟩

/-- Whoever is told an account in a currency can rely on the row that was read. -/
theorem ensures_accountIn (currency : String) (id : Int64) (db : Database) :
    (accountIn currency id).run.Ensures (fun result after => SameMoney db after ∧
      (result.isOk → Holds currency id.toInt after)) db := by
  have found : (find (absentAccount id) (Store.account id.toInt)).run.Ensures
      (fun result after => SameMoney db after ∧
        ∀ a, result = .ok a → Holds a.currency id.toInt after) db :=
    ensures_find (ensures_account id.toInt db)
      (fun a _ h => ⟨h.1, fun _ same => by cases same; exact h.2 a rfl⟩)
      fun _ _ _ h => ⟨h.1, fun _ same => by cases same⟩
  refine ensures_bind found (fun a after h => ?_) fun _ _ h => ⟨h.1, nofun⟩
  dsimp only
  split
  · exact ⟨h.1, nofun⟩
  · next same => exact ⟨h.1, fun _ => not_ne_iff.1 same ▸ h.2 a rfl⟩

/-- A transfer is fair where both its accounts have the currency of the order. -/
theorem fair_carryOut {db : Database} (sound : db.Sound) {order : TransferOrder}
    (source : Holds order.currency order.fromAccount.toInt db)
    (target : Holds order.currency order.toAccount.toInt db) :
    (carryOut order).run.Ensures (fun _ after => Fair db after) db := by
  obtain ⟨a, ha, hsource, hcurrency⟩ := source
  obtain ⟨b, hb, htarget, hcurrency'⟩ := target
  have limited : (Ledger.storedTransfer order.movement).limited.Ensures
      (fun _ after => Fair db after) db := .limited (Ledger.fair_storedTransfer sound ha hb hsource
        htarget (hcurrency.trans hcurrency'.symm))
  refine Interaction.Ensures.bind (Interaction.Ensures.bind limited fun result db' h => ?_)
    fun result db' (h : Fair db db') => ?_
  · exact h
  · rcases result with f | (_ | e | receipt)
    all_goals exact h

theorem fair_transfer (payload : Token.Payload) (r : Request) : (transfer payload r).Fair := by
  refine (quiet_ofRequest TransferOrder.form r).bind_fair fun order => ?_
  intro db sound
  unfold TransferOrder.act
  split
  · exact SameMoney.fair (.refl db) sound
  · refine ensures_bind (ensures_accountIn order.currency order.fromAccount db)
      (fun source db₁ h₁ => ?_) fun _ _ h => h.1.fair sound
    split
    · exact h₁.1.fair sound
    · refine ensures_bind (ensures_accountIn order.currency order.toAccount db₁)
        (fun target db₂ h₂ => ?_) fun _ _ h => (h₁.1.trans h.1).fair sound
      have same := h₁.1.trans h₂.1
      -- Both lookups have left the money where it was, so what each has found still holds.
      refine ensures_bind (fair_carryOut (same.sound sound) ((h₁.2 rfl).of_same h₂.1) (h₂.2 rfl))
        (fun receipt db₃ fair => ?_) fun _ _ fair => fair.after_same same
      exact fair.after_same same

/-! ### Requests -/

/-- Every endpoint is fair: two of them by what they do to accounts, one by what it moves, and the
others by leaving money alone. -/
theorem fair_serve (auth : Authority) (r : Request) (endpoint : Endpoint) :
    (serve auth r endpoint).Fair := by
  cases endpoint with
  | free endpoint =>
    cases endpoint with
    | health => exact Interaction.Quiet.fair quiet_health
    | signUp => exact Interaction.Quiet.fair (quiet_signUp r)
    | login => exact Interaction.Quiet.fair (quiet_login auth r)
    | renew => exact Interaction.Quiet.fair (quiet_renew auth r)
  | guarded endpoint =>
    refine (quiet_authenticate auth r.headers).bind_fair fun payload => ?_
    cases endpoint with
    | openAccount => exact fair_openAccount payload r
    | listAccounts => exact Interaction.Quiet.fair (quiet_listAccounts payload r)
    | readAccount id => exact Interaction.Quiet.fair (quiet_readAccount payload id)
    | closeAccount id => exact fair_closeAccount payload id
    | transfer => exact fair_transfer payload r

theorem quiet_refuse (auth : Authority) (r : Request) (isGuarded : Bool) :
    (refuse auth r isGuarded).Quiet := by
  unfold refuse
  split
  · refine Interaction.Quiet.bind (quiet_authenticate auth r.headers) fun result => ?_
    cases result <;> exact Interaction.quiet_pure _
  · exact Interaction.quiet_pure _

/-- Whatever is requested is fair. -/
theorem fair_handle (auth : Authority) (r : Request) : (handle auth r).Fair := by
  refine Interaction.Fair.bind_quiet ?_ fun _ => Interaction.quiet_pure _
  unfold answer
  dsimp only
  split
  · exact (Interaction.quiet_pure _).fair
  · split
    · next endpoint _ =>
      refine Interaction.Fair.bind_quiet (fair_serve auth r endpoint) fun result => ?_
      cases result <;> exact Interaction.quiet_pure _
    · exact ((quiet_refuse auth r _).bind fun _ => Interaction.quiet_pure _).fair

/-! ### Any number of requests -/

/-- A request, and the clocks and what is drawn at random when it is answered. -/
structure Visit where
  request : Request
  tokenTime : Timestamp
  wallTime : Timestamp
  now : Timestamp
  identifier : Uuid
  nonces : Nat
  salts : Nat

/-- The world of a visit. -/
def Visit.world (v : Visit) (db : Database) : World Database :=
  ⟨{ db with now := v.now }, v.tokenTime, v.wallTime, v.identifier, v.nonces, v.salts⟩

/-- The database that a visit leaves. -/
def visited (auth : Authority) (db : Database) (v : Visit) : Database :=
  ((v.world db).perform (handle auth v.request)).2.database

theorem fair_visited (auth : Authority) {db : Database} (sound : db.Sound) (v : Visit) :
    Fair db (visited auth db v) := by
  have same : SameMoney db (v.world db).database := ⟨rfl, rfl⟩
  obtain ⟨_, -, fair⟩ := (fair_handle auth v.request _ (same.sound sound)).perform
  exact fair.after_same same

/-- Induction over the visits, each of which is fair. -/
theorem sound_visits (auth : Authority) (visits : List Visit) {db : Database} (sound : db.Sound) :
    (visits.foldl (visited auth) db).Sound := by
  induction visits generalizing db with
  | nil => exact sound
  | cons v visits ih => exact ih (fair_visited auth sound v).sound

/-- After any requests, made one at a time to a service whose tables were empty: in each currency
the balances of all accounts come to nothing, each balance is the sum of the entries of its account,
and whatever is requested next, an account that is gone after it has had a balance of zero. -/
theorem money_conserved (auth : Authority) (now : Timestamp) (visits : List Visit) :
    let db := visits.foldl (visited auth) (.empty now)
    (∀ currency, total (db.rows .accounts) currency = 0) ∧
    (∀ a ∈ db.rows .accounts, (∃ currency, a .currency = .text currency) ∧
      a .balance = .integer (posted (db.rows .entries) (a .id))) ∧
    (∀ e ∈ db.rows .entries, ∃ n, e .amount = .integer n) ∧
    ∀ v, ∀ a ∈ db.rows .accounts,
      (∀ b ∈ (visited auth db v).rows .accounts, b .id ≠ a .id) → a .balance = .integer 0 := by
  intro db
  have sound : db.Sound := sound_visits auth visits Conserved.empty
  refine ⟨sound.totals, fun a ha => ⟨sound.currencies a ha, sound.balances a ha⟩, sound.amounts,
    fun v a ha gone => ?_⟩
  refine (fair_visited auth sound v).gone a ha fun mem => ?_
  obtain ⟨b, hb, same⟩ := List.mem_map.1 mem
  exact gone b hb same

end Teller.Gateway
