import Teller.Proofs.Gateway.Authorization
import Teller.Proofs.SideBySide

/-!
# What clients are not told

The database explains why it refuses a statement. Clients are told what kind of failure it was and
nothing of the explanation: whoever is told the one cannot tell which of the others was given.

Each part of a handler is compared with itself on two runs with alike replies. Results of the store
may differ in their errors, as long as these are of one kind; results of a handler are the same.
-/

namespace Teller

namespace Store

/-- Errors of one kind. -/
structure Error.Alike (e e' : Error) : Prop where
  notFound : e.isNotFound = e'.isNotFound
  unique : e.isUniqueViolation = e'.isUniqueViolation
  foreignKey : e.isForeignKeyViolation = e'.isForeignKeyViolation

/-- The same value, or errors of one kind. -/
inductive AlikeResults {α : Type} : Except Error α → Except Error α → Prop where
  | ok (a : α) : AlikeResults (.ok a) (.ok a)
  | error {e e' : Error} (h : e.Alike e') : AlikeResults (.error e) (.error e')

variable {α β : Type}

theorem AlikeResults.same (result : Except Error α) : AlikeResults result result := by
  cases result with
  | ok a => exact .ok a
  | error e => exact .error ⟨rfl, rfl, rfl⟩

/-- Results that are alike stay so, whatever is made of their values. -/
theorem AlikeResults.bind {x x' : Except Error α} (h : AlikeResults x x')
    (f : α → Except Error β) : AlikeResults (x >>= f) (x' >>= f) := by
  cases h with
  | ok a => exact .same (f a)
  | error h => exact .error h

/-- Only the cause decides of what kind an error is, and not how the rollback ended. -/
theorem Error.Alike.of_cause {e e' f f' : Error} (h : e.Alike e') (cause : f.cause = e.cause)
    (cause' : f'.cause = e'.cause) : f.Alike f' := by
  obtain ⟨notFound, unique, foreignKey⟩ := h
  unfold isNotFound isUniqueViolation isForeignKeyViolation conditionCode at *
  rw [← cause, ← cause'] at notFound unique foreignKey
  exact ⟨notFound, unique, foreignKey⟩

/-- Two refusals are alike if they name the same condition, or neither names a violation. -/
theorem alike_rejected {code code' : Option String}
    (h : code = code' ∨ ¬IsViolation code ∧ ¬IsViolation code') (detail detail' : String) :
    (Error.database (.rejected code detail)).Alike (.database (.rejected code' detail')) := by
  have codes (violation : String) (told : IsViolation (some violation)) :
      decide (code = some violation) = decide (code' = some violation) := by
    rcases h with rfl | ⟨other, other'⟩
    · rfl
    · have differs : code ≠ some violation := by rintro rfl; exact other told
      have differs' : code' ≠ some violation := by rintro rfl; exact other' told
      rw [decide_eq_false differs, decide_eq_false differs']
  exact ⟨rfl, codes _ (.inl rfl), codes _ (.inr rfl)⟩

theorem Reply.Alike.rows? {reply reply' : Reply} (h : reply.Alike reply') :
    AlikeResults reply.rows? reply'.rows? := by
  cases h with
  | same => exact .same _
  | refused h detail detail' => exact .error (alike_rejected h detail detail')

theorem Reply.Alike.count? {reply reply' : Reply} (h : reply.Alike reply') :
    AlikeResults reply.count? reply'.count? := by
  cases h with
  | same => exact .same _
  | refused h detail detail' => exact .error (alike_rejected h detail detail')

/-- Asks the same and comes to alike results, whatever it is told of the details. -/
def Discreet (x : Interaction (Except Error α)) : Prop := x.InUnison AlikeResults x

/-- A request is discreet if alike replies are read as alike results. -/
theorem discreet_send {request : Request} {f : Reply → Except Error α}
    (h : ∀ reply reply' : Reply, reply.Alike reply' → AlikeResults (f reply) (f reply')) :
    Discreet (Interaction.send request >>= fun reply => pure (f reply)) :=
  (Interaction.inUnison_send request).bind fun reply reply' alike => .done (h reply reply' alike)

theorem discreet_fetchFirst (s : Statement) (arguments : List Value)
    (read : Cells → Except Cause α) : Discreet (fetchFirst s arguments read) :=
  discreet_send fun _ _ alike => alike.rows?.bind _

theorem discreet_fetchAll (s : Statement) (arguments : List Value)
    (read : Cells → Except Cause α) : Discreet (fetchAll s arguments read) :=
  discreet_send fun _ _ alike => alike.rows?.bind _

theorem discreet_command (request : Request) : Discreet (command request) :=
  discreet_send fun _ _ alike => alike.count?.bind _

theorem discreet_deleteAccount (id : Id) : Discreet (deleteAccount id) :=
  discreet_send fun _ _ alike => alike.count?.bind _

end Store

/-! ### Units of work in the database -/

namespace Ledger

open Store

variable {α β : Type}

/-- Units of work that are discreet make a discreet one. -/
theorem discreet_perform_bind {x : Work α} {f : α → Work β} (hx : Discreet (stored.perform x))
    (hf : ∀ a, Discreet (stored.perform (f a))) : Discreet (stored.perform (x >>= f)) := by
  unfold Discreet
  rw [perform_bind stored]
  refine Interaction.InUnison.bind hx fun result result' alike => ?_
  cases alike with
  | ok a => exact hf a
  | error h => exact .done (.error h)

theorem discreet_perform_pure (a : α) : Discreet (stored.perform (pure a)) := .done (.ok a)

/-- A write that is the whole of a unit of work. -/
theorem discreet_write {x : Interaction (Except Error α)} (h : Discreet x) :
    Discreet (x >>= fun result => pure result) :=
  Interaction.InUnison.bind h fun _ _ alike => .done alike

theorem discreet_add (account : Id) (delta : Int64) :
    Discreet (stored.perform (Work.add account delta)) :=
  discreet_write (discreet_fetchFirst _ _ _)

theorem discreet_moveBalances (m : Movement) :
    Discreet (stored.perform (Work.moveBalances m)) := by
  unfold Work.moveBalances
  split
  · exact discreet_perform_bind (discreet_add _ _) fun _ => discreet_perform_pure _
  · split
    all_goals
      refine discreet_perform_bind (discreet_add _ _) fun first => ?_
      refine discreet_perform_bind (discreet_add _ _) fun second => ?_
      exact discreet_perform_pure _

theorem discreet_transfer (m : Movement) : Discreet (stored.perform (Work.transfer m)) := by
  have recorded : Discreet (stored.perform (Work.recordTransfer m)) :=
    discreet_write (discreet_fetchFirst _ _ _)
  have entered (account : Id) (n : Int64) :
      Discreet (stored.perform (Work.recordEntry account n)) :=
    discreet_write (discreet_fetchFirst _ _ _)
  refine discreet_perform_bind recorded fun transfer => ?_
  refine discreet_perform_bind (entered m.source (-m.amount)) fun debit => ?_
  refine discreet_perform_bind (entered m.target m.amount) fun credit => ?_
  refine discreet_perform_bind (discreet_moveBalances m) fun balances => ?_
  exact discreet_perform_pure _

/-- An ending that fails as well does not change the cause. -/
theorem cause_failureAfter (e : Error) (ending : Except Error Unit) :
    (failureAfter e ending).cause = e.cause := by
  cases ending <;> rfl

/-- A transaction is as discreet as the unit of work in it, also where its rollback fails. -/
theorem discreet_execute {work : Work α} (h : Discreet (stored.perform work)) :
    Discreet (stored.execute work) := by
  refine (discreet_command .start).bind fun opened opened' alike => ?_
  cases alike with
  | error h => exact .done (.error h)
  | ok _ =>
    refine Interaction.InUnison.bind h fun result result' alike => ?_
    cases alike with
    | ok a =>
      refine (discreet_command .commit).bind fun ended ended' alike => ?_
      cases alike with
      | ok _ => exact .done (.ok a)
      | error h => exact .done (.error h)
    | error h =>
      -- What the rollback is answered does not matter: the work has failed for its own cause.
      refine (discreet_command .rollback).bind fun undone undone' _ => .done (.error ?_)
      exact h.of_cause (cause_failureAfter _ _) (cause_failureAfter _ _)

end Ledger

namespace Gateway

open Store (Discreet AlikeResults discreet_fetchFirst)

variable {α β : Type}

/-- Of errors that are alike clients are told the same. -/
theorem Failure.ofStore_eq_of_alike {e e' : Store.Error} (h : e.Alike e') :
    ofStore e = ofStore e' := by
  rw [ofStore, ofStore, h.notFound, h.unique, h.foreignKey]

/-! ### Handlers -/

namespace Handler

/-- Asks the same and comes to the same, whatever it is told of the details. -/
def Discreet (x : Handler α) : Prop := x.run.InUnison Eq x.run

theorem discreet_ofExcept (x : Except Failure α) : (ofExcept x).Discreet := .done rfl

theorem discreet_pure (a : α) : (pure a : Handler α).Discreet := .done rfl

theorem discreet_throw (f : Failure) : (throw f : Handler α).Discreet := .done rfl

/-- Discreet parts make a discreet handler. -/
theorem Discreet.bind {x : Handler α} {f : α → Handler β} (hx : x.Discreet)
    (hf : ∀ a, (f a).Discreet) : (x >>= f).Discreet := by
  refine Interaction.InUnison.bind hx fun result result' same => ?_
  subst same
  cases result with
  | ok a => exact hf a
  | error failure => exact .done rfl

theorem discreet_lift {x : Interaction α} (hx : x.InUnison Eq x) :
    (liftM x : Handler α).Discreet :=
  Interaction.InUnison.bind hx fun _ _ same => .done (congrArg Except.ok same)

/-- A condition under which a handler does not go on. -/
theorem discreet_unless {c : Prop} [Decidable c] {f : Failure} {rest : Handler α}
    (h : rest.Discreet) : (if c then throw f >>= fun _ : PUnit => rest else rest).Discreet := by
  split
  · exact (discreet_throw f).bind fun _ => h
  · exact h

/-- Of what the store does only the kind of an error gets out. -/
theorem discreet_store {x : Interaction (Except Store.Error α)} (hx : Store.Discreet x) :
    (store x).Discreet := by
  unfold Discreet store
  rw [run_lift_bind]
  refine Interaction.InUnison.bind hx fun result result' alike => ?_
  cases alike with
  | ok a => exact .done rfl
  | error h => exact .done (congrArg Except.error (Failure.ofStore_eq_of_alike h))

theorem discreet_find {absent : String} {x : Interaction (Except Store.Error α)}
    (hx : Store.Discreet x) : (find absent x).Discreet := by
  unfold Discreet find
  rw [run_lift_bind]
  refine Interaction.InUnison.bind hx fun result result' alike => ?_
  cases alike with
  | ok a => exact .done rfl
  | error h =>
    dsimp only
    rw [h.notFound, Failure.ofStore_eq_of_alike h]
    split <;> exact .done rfl

/-- A discreet handler is answered the same on both runs. -/
theorem inUnison_respond {x : Handler Json.Value} (hx : x.Discreet) :
    (respond x).InUnison Eq (respond x) := by
  refine Interaction.InUnison.bind hx fun result result' same => ?_
  subst same
  cases result <;> exact .done rfl

end Handler

open Handler

/-! ### Tokens and forms -/

section

variable (auth : Authority) (payload : Token.Payload) (r : Request)

theorem discreet_issue (username : String) (lifetime : Duration) :
    (auth.issue username lifetime).Discreet := by
  refine (discreet_lift Interaction.inUnison_identifier).bind fun id => ?_
  refine (discreet_lift (Interaction.inUnison_time .tokens)).bind fun now => ?_
  refine (discreet_lift Interaction.inUnison_nonce).bind fun nonce => ?_
  exact discreet_ofExcept _

theorem discreet_verify (token : String) : (auth.verify token).Discreet :=
  (discreet_lift (Interaction.inUnison_time .tokens)).bind fun _ => discreet_ofExcept _

theorem discreet_authenticate (headers : Headers) : (auth.authenticate headers).Discreet :=
  (discreet_lift (Interaction.inUnison_time .tokens)).bind fun _ => discreet_ofExcept _

theorem discreet_ofRequest (form : Form α) : (form.ofRequest r).Discreet := discreet_ofExcept _

/-! ### Endpoints -/

theorem discreet_health : health.Discreet := by
  unfold Handler.Discreet health
  rw [run_lift_bind]
  refine Interaction.InUnison.bind (Store.discreet_command _) fun result result' alike => ?_
  cases alike with
  | error => exact .done rfl
  | ok _ => exact (discreet_lift (Interaction.inUnison_time .wall)).bind fun _ => discreet_pure _

theorem discreet_signUp : (signUp r).Discreet := by
  refine (discreet_ofRequest r SignUp.form).bind fun form => ?_
  refine (discreet_lift Interaction.inUnison_salt).bind fun salt => ?_
  have inserted (hash : String) : Store.Discreet
      (Store.insertUser form.username form.fullName form.email hash) := discreet_fetchFirst _ _ _
  exact (discreet_store (inserted _)).bind fun user => discreet_pure _

/-- Clients are told that a user is missing or that a password is wrong, and nothing else of the
database. -/
theorem discreet_login : (login auth r).Discreet := by
  refine (discreet_ofRequest r Login.form).bind fun form => ?_
  have found : (find "user not found" (Store.user form.username)).Discreet :=
    discreet_find (discreet_fetchFirst _ _ _)
  refine found.bind fun user => ?_
  have checked : (checkPassword form.password user).Discreet := discreet_ofExcept _
  refine checked.bind fun _ => ?_
  refine (discreet_issue auth user.username auth.accessLifetime).bind fun access => ?_
  refine (discreet_issue auth user.username auth.refreshLifetime).bind fun refresh => ?_
  have inserted (login : Store.Login) : Store.Discreet (Store.insertSession login) :=
    discreet_fetchFirst _ _ _
  exact (discreet_store (inserted _)).bind fun session => discreet_pure _

/-- Clients are told that a session is missing or why it cannot be renewed, and nothing else of the
database. -/
theorem discreet_renew : (renew auth r).Discreet := by
  refine (discreet_ofRequest r Renewal.form).bind fun form => ?_
  refine (discreet_verify auth form.refreshToken).bind fun payload => ?_
  have found : (find "session not found" (Store.session payload.id)).Discreet :=
    discreet_find (discreet_fetchFirst _ _ _)
  refine found.bind fun session => ?_
  refine (discreet_lift (Interaction.inUnison_time .wall)).bind fun now => ?_
  have checked : (ofExcept (checkSession session payload form.refreshToken now)).Discreet :=
    discreet_ofExcept _
  refine checked.bind fun _ => ?_
  refine (discreet_issue auth payload.username auth.accessLifetime).bind fun access => ?_
  have updated (token : String) (expiresAt : Timestamp) :
      Store.Discreet (Store.setAccess session.id token expiresAt) := discreet_fetchFirst _ _ _
  exact (discreet_store (updated _ _)).bind fun _ => discreet_pure _

theorem discreet_openAccount : (openAccount payload r).Discreet := by
  refine (discreet_ofRequest r Opening.form).bind fun form => ?_
  have inserted : Store.Discreet (Store.insertAccount payload.username form.currency 0) :=
    discreet_fetchFirst _ _ _
  exact (discreet_store inserted).bind fun account => discreet_pure _

theorem discreet_ownAccount (segment : String) : (ownAccount payload segment).Discreet := by
  refine (discreet_ofExcept _).bind fun id => discreet_unless ?_
  have found : (find (absentAccount id) (Store.account id.toInt)).Discreet :=
    discreet_find (discreet_fetchFirst _ _ _)
  exact found.bind fun account => discreet_unless (discreet_pure account)

theorem discreet_readAccount (segment : String) : (readAccount payload segment).Discreet :=
  (discreet_ownAccount payload segment).bind fun _ => discreet_pure _

theorem discreet_closeAccount (segment : String) : (closeAccount payload segment).Discreet := by
  refine (discreet_ownAccount payload segment).bind fun account => ?_
  refine (discreet_store (Store.discreet_deleteAccount account.id)).bind fun _ => ?_
  exact discreet_pure _

theorem discreet_listAccounts : (listAccounts payload r).Discreet := by
  refine (discreet_ofExcept _).bind fun window => ?_
  have listed : Store.Discreet (Store.accountsOf payload.username window) :=
    Store.discreet_fetchAll _ _ _
  exact (discreet_store listed).bind fun accounts => discreet_pure _

theorem discreet_accountIn (currency : String) (id : Int64) : (accountIn currency id).Discreet := by
  have found : (find (absentAccount id) (Store.account id.toInt)).Discreet :=
    discreet_find (discreet_fetchFirst _ _ _)
  exact found.bind fun account => discreet_unless (discreet_pure account)

theorem discreet_carryOut (order : TransferOrder) : (carryOut order).Discreet := by
  unfold Handler.Discreet carryOut
  rw [run_lift_bind]
  have transferred : Store.Discreet (Ledger.storedTransfer order.movement) :=
    Ledger.discreet_execute (Ledger.discreet_transfer order.movement)
  refine transferred.limited.bind fun result result' alike => ?_
  cases alike with
  | none => exact .done rfl
  | some alike =>
    cases alike with
    | ok receipt => exact .done rfl
    | error h => exact .done (congrArg Except.error (Failure.ofStore_eq_of_alike h))

theorem discreet_transfer : (transfer payload r).Discreet := by
  refine (discreet_ofRequest r TransferOrder.form).bind fun order => discreet_unless ?_
  refine (discreet_accountIn order.currency order.fromAccount).bind fun source => ?_
  refine discreet_unless ?_
  refine (discreet_accountIn order.currency order.toAccount).bind fun target => ?_
  refine (discreet_carryOut order).bind fun receipt => ?_
  exact discreet_pure _

theorem discreet_serve (endpoint : Endpoint) : (serve auth r endpoint).Discreet := by
  rcases endpoint with free | guarded
  · cases free with
    | health => exact discreet_health
    | signUp => exact discreet_signUp r
    | login => exact discreet_login auth r
    | renew => exact discreet_renew auth r
  · refine (discreet_authenticate auth r.headers).bind fun payload => ?_
    cases guarded with
    | openAccount => exact discreet_openAccount payload r
    | listAccounts => exact discreet_listAccounts payload r
    | readAccount id => exact discreet_readAccount payload id
    | closeAccount id => exact discreet_closeAccount payload id
    | transfer => exact discreet_transfer payload r

/-! ### Whole requests -/

/-- Requests that no endpoint takes are discreet as well: the database is not even asked. -/
theorem inUnison_refuse (isGuarded : Bool) :
    (refuse auth r isGuarded).InUnison Eq (refuse auth r isGuarded) := by
  unfold refuse
  split
  · refine Interaction.InUnison.bind (discreet_authenticate auth r.headers)
      fun result result' same => ?_
    subst same
    cases result <;> exact .done rfl
  · exact .done rfl

theorem inUnison_answer : (answer auth r).InUnison Eq (answer auth r) := by
  unfold answer
  dsimp only
  split
  · exact .done rfl
  · split
    · exact inUnison_respond (discreet_serve auth r _)
    · exact (inUnison_refuse auth r _).bind fun _ _ same => .done (congrArg _ same)

theorem inUnison_handle : (handle auth r).InUnison Eq (handle auth r) := by
  refine (inUnison_answer auth r).bind fun _ _ same => ?_
  subst same
  split <;> exact .done rfl

end

/-- Whatever is requested: if two databases differ in no more than how they explain their refusals,
in the text and in codes other than those of violated constraints, then the same is asked of them
and the answers are the same, on every way that the request can go and with every script. -/
theorem details_stay_inside (auth : Authority) (r : Request) :
    (∀ log log' response, List.Forall₂ Exchange.Alike log log' →
      (handle auth r).Goes log response → (handle auth r).Goes log' response) ∧
    ∀ w w' : World Store.Script, w.Alike w' →
      (w.rehearse (handle auth r)).1 = (w'.rehearse (handle auth r)).1 ∧
        List.Forall₂ Exchange.Alike ((handle auth r).scriptLog w)
          ((handle auth r).scriptLog w') := by
  have same {response response' : Option Response} (h : Option.Rel Eq response response') :
      response = response' := by
    cases h with
    | none => rfl
    | some h => rw [h]
  constructor
  · intro log log' response alike goes
    obtain ⟨response', goes', ends⟩ := (inUnison_handle auth r).goes alike goes
    exact same ends ▸ goes'
  · intro w w' alike
    obtain ⟨ends, logs⟩ := (inUnison_handle auth r).rehearse alike
    exact ⟨same ends, logs⟩

/-- The database finds the accounts of the payment, refuses to move the first balance and breaks off
when that is to be rolled back. -/
def refusedUpdate (code detail : String) : World Store.Script := .scripted
  ([some (.rows [[.integer 1, .text "ada", .text "USD", .integer 100, .instant .epoch]]),
    some (.rows [[.integer 2, .text "bob", .text "USD", .integer 50, .instant .epoch]])] ++
    paymentReplies.take 3 ++ [some (.refused (some code) detail)])
  [("ROLLBACK", some .broken)]

/-- The world in which the payment has been found to be in order. -/
def clearedPayment (w : World Store.Script) : World Store.Script :=
  [.time .tokens, .send (.query .account [.integer 1]), .send (.query .account [.integer 2])].foldl
    (fun w q => (World.answer (fun request script => script.answer request) q w).2) w

/-- Who makes the payment cannot tell a deadlock from a cancelled statement. -/
theorem deadlock_like_cancellation :
    let w := refusedUpdate "40P01" "deadlock detected"
    let w' := refusedUpdate "57014" "canceling statement due to user request"
    w.Alike w' ∧ ∃ log log' response, List.Forall₂ Exchange.Alike log log' ∧
      .rollback ∈ requests log ∧ (handle vault payment).Goes log (some response) ∧
      (handle vault payment).Goes log' (some response) ∧
      (w.rehearse (handle vault payment)).1 = some response ∧
      (w'.rehearse (handle vault payment)).1 = some response ∧ response.status = 500 := by
  intro w w'
  have alike : w.Alike w' := by
    refine ⟨⟨?_, ?_, rfl, rfl, rfl⟩, rfl, rfl, rfl, rfl, rfl⟩
    · have refused : Store.AlikeReplies (some (.refused (some "40P01") "deadlock detected"))
          (some (.refused (some "57014") "canceling statement due to user request")) :=
        .some (.refused (.inr (by decide)) _ _)
      have same (reply : Option Store.Reply) : Store.Statement → Store.AlikeReplies reply reply :=
        fun _ => .same reply
      exact .cons (same _) (.cons (same _) (.cons (same _) (.cons (same _) (.cons (same _)
        (.cons (fun _ => refused) .nil)))))
    · exact .cons ⟨rfl, .same _⟩ .nil
  obtain ⟨ways, scripts⟩ := details_stay_inside vault payment
  obtain ⟨same, logs⟩ := scripts w w' alike
  have told : Interaction.Told _ w (paymentLog (clearedPayment w)) _ :=
    .cons (.time .tokens) (.cons (.send (.query .account [.integer 1]))
      (.cons (.send (.query .account [.integer 2])) (Interaction.told_log _ _ (clearedPayment w))))
  obtain ⟨log, ran⟩ := (goes_payment (clearedPayment w)).eq_of_told told
  have answered : (w.rehearse (handle vault payment)).1 = _ := congrArg Prod.fst ran
  have goes := Interaction.goes_rehearse (handle vault payment) w
  rw [answered] at goes
  refine ⟨alike, _, _, _, logs, ?_, goes, ways _ _ _ logs goes, answered, same ▸ answered, ?_⟩
  · change .rollback ∈ requests ((handle vault payment).log _ w)
    rw [log]
    decide +kernel
  · decide +kernel

end Gateway

end Teller
