import Teller.Gateway.Router
import Teller.Proofs.Gateway.Bearer
import Teller.Proofs.Gateway.Checks
import Teller.Proofs.Gateway.Form
import Teller.Proofs.Ledger.Protocol

/-!
# Requests to move money

A request to move money is cleared by one check after the other. The first one that it does not pass
turns it away; if it passes them all the transfer is carried out, and the answer tells what came of
it.
-/

namespace Teller.Gateway

open Store Interaction Handler

variable {α : Type} {log : List Exchange}

/-! ### The checks -/

theorem goes_authenticate_iff {auth : Authority} {headers : Headers}
    {ending : Option (Except Failure Token.Payload)} :
    (auth.authenticate headers).run.Goes log ending ↔ ∃ now : Timestamp,
      log = [⟨.time .tokens, now⟩] ∧
        ending = some (Bearer.authenticate auth.maker now headers) := by
  have asks : (auth.authenticate headers).run =
      ask (.time .tokens) fun now => pure (Bearer.authenticate auth.maker now headers) := rfl
  rw [asks, goes_ask_iff]
  constructor
  · rintro ⟨now, rest, rfl, h⟩
    obtain ⟨rfl, rfl⟩ := goes_pure_iff.1 h
    exact ⟨now, rfl, rfl⟩
  · rintro ⟨now, rfl, rfl⟩
    exact ⟨now, [], rfl, goes_pure_iff.2 ⟨rfl, rfl⟩⟩

theorem checks_authenticate (auth : Authority) (headers : Headers) :
    (auth.authenticate headers).Checks fun log payload => ∃ now : Timestamp,
      log = [⟨.time .tokens, now⟩] ∧
        Bearer.authenticate auth.maker now headers = .ok payload := by
  intro log ending h
  obtain ⟨now, rfl, rfl⟩ := goes_authenticate_iff.1 h
  cases presented : Bearer.authenticate auth.maker now headers with
  | error failure =>
    refine .inl ⟨by simp, fun result hresult => ?_⟩
    cases hresult
    exact ⟨failure, rfl, by simp [Bearer.status_of_refused presented]⟩
  | ok payload => exact .inr ⟨payload, rfl, by simp, now, rfl, presented⟩

theorem checks_ofRequest (form : Form α) (r : Request) : (form.ofRequest r).Checks fun log x =>
    log = [] ∧ form.read r.headers r.body = .ok x :=
  checks_ofExcept fun failure h => by simp [Form.status_of_read_eq_error h]

theorem checks_accountIn (currency : String) (id : Int64) :
    (accountIn currency id).Checks fun log account => ∃ e, log = [e] ∧
      e.Tells .account [.integer id.toInt] Account.ofCells account ∧
      account.currency = currency := by
  have found : (find (absentAccount id) (Store.account id.toInt)).Checks fun log account =>
      ∃ e, log = [e] ∧ e.Tells .account [.integer id.toInt] Account.ofCells account :=
    checks_find (sends_fetchFirst _ rfl fun _ => rfl)
      (by simp [Request.isLookup, Statement.account])
  intro log ending h
  rcases found.bind_cases h with away | ⟨account, front, back, rfl, looked, ⟨e, rfl, told⟩, rest⟩
  · exact .inl away
  · dsimp only at rest
    split at rest
    · exact .inl (.after looked (turnedAway_throw (by simp [currencyMismatch]) rest))
    · next same =>
      obtain ⟨rfl, rfl⟩ := goes_pure_iff.1 rest
      rw [List.append_nil]
      exact .inr ⟨account, rfl, looked, e, rfl, told, not_ne_iff.1 same⟩

/-! ### The transfer -/

/-- What is answered to a transfer, which may have had too little time. -/
def outcome : Option (Except Store.Error Ledger.Receipt) → Except Failure Ledger.Receipt
  | none => .error timedOut
  | some (.ok receipt) => .ok receipt
  | some (.error e) => .error (.ofStore e)

theorem goes_carryOut_iff {order : TransferOrder}
    {ending : Option (Except Failure Ledger.Receipt)} :
    (carryOut order).run.Goes log ending ↔ ∃ result,
      (Ledger.storedTransfer order.movement).Goes log result ∧ ending = some (outcome result) := by
  have carried : (carryOut order).run =
      (Ledger.storedTransfer order.movement).limited >>= fun result => pure (outcome result) := by
    rw [carryOut, run_lift_bind]
    congr 1
    funext result
    rcases result with _ | _ | _ <;> rfl
  rw [carried, goes_bind_pure_iff]
  constructor
  · rintro ⟨ended, h, rfl⟩
    obtain ⟨result, hresult, rfl⟩ := goes_limited_iff.1 h
    exact ⟨result, hresult, rfl⟩
  · rintro ⟨result, h, rfl⟩
    exact ⟨some result, goes_limited_iff.2 ⟨result, h, rfl⟩, rfl⟩

/-- The order in a request was read, and the rows of both accounts allow the subject of a token to
move the money. -/
structure Cleared (payload : Token.Payload) (r : Request) (order : TransferOrder)
    (first second : Exchange) : Prop where
  body : TransferOrder.form.read r.headers r.body = .ok order
  distinct : order.fromAccount ≠ order.toAccount
  source : ∃ account,
    first.Tells .account [.integer order.fromAccount.toInt] Account.ofCells account ∧
    account.currency = order.currency ∧ account.owner = payload.username
  target : ∃ account,
    second.Tells .account [.integer order.toAccount.toInt] Account.ofCells account ∧
    account.currency = order.currency

/-- A request to move money is turned away, or it is cleared and the transfer is carried out. -/
theorem transfer_cases {payload : Token.Payload} {r : Request}
    {ending : Option (Except Failure Json.Value)} (h : (transfer payload r).run.Goes log ending) :
    TurnedAway log ending ∨ ∃ order first second rest result, log = first :: second :: rest ∧
      Cleared payload r order first second ∧
      (Ledger.storedTransfer order.movement).Goes rest result ∧
      ending = some ((outcome result).map Ledger.Receipt.toJson) := by
  rcases (checks_ofRequest _ r).bind_cases h with
    away | ⟨order, front, back, rfl, -, ⟨rfl, body⟩, ordered⟩
  · exact .inl away
  rw [List.nil_append]
  unfold TransferOrder.act at ordered
  split at ordered
  · exact .inl (turnedAway_throw (by simp [Failure.badRequest]) ordered)
  next distinct =>
  rcases (checks_accountIn _ _).bind_cases ordered with
    away | ⟨source, front, back, rfl, looked, ⟨first, rfl, hsource, currency⟩, found⟩
  · exact .inl away
  split at found
  · exact .inl (.after looked (turnedAway_throw (by simp [notYours]) found))
  next owner =>
  rcases (checks_accountIn _ _).bind_cases found with
    away | ⟨target, front, back, rfl, -, ⟨second, rfl, htarget, currency'⟩, cleared⟩
  · exact .inl (.after looked away)
  right
  obtain ⟨ended, carried, rfl⟩ := goes_map_iff.1 cleared
  obtain ⟨result, moved, rfl⟩ := goes_carryOut_iff.1 carried
  refine ⟨order, first, second, back, result, rfl, ?_, moved, rfl⟩
  exact {
    body := body
    distinct := distinct
    source := ⟨source, hsource, currency, not_ne_iff.1 owner⟩
    target := ⟨target, htarget, currency'⟩ }

/-- A row of an account is what the check of it asks for. -/
theorem goes_accountIn {e : Exchange} {currency : String} {id : Int64} {account : Account}
    (told : e.Tells .account [.integer id.toInt] Account.ofCells account)
    (same : account.currency = currency) :
    (accountIn currency id).run.Goes [e] (some (.ok account)) := by
  have found := goes_find (absentAccount id) (goes_fetchFirst told)
  refine goes_bind [e] found ?_
  rw [if_neg (not_not_intro same)]
  exact goes_pure_iff.2 ⟨rfl, rfl⟩

/-- A request that is cleared can go on with the transfer in each of its ways. -/
theorem goes_transfer {payload : Token.Payload} {r : Request} {order : TransferOrder}
    {first second : Exchange} (cleared : Cleared payload r order first second)
    {result : Option (Except Store.Error Ledger.Receipt)}
    (h : (Ledger.storedTransfer order.movement).Goes log result) :
    (transfer payload r).run.Goes (first :: second :: log)
      (some ((outcome result).map Ledger.Receipt.toJson)) := by
  obtain ⟨source, told, currency, owner⟩ := cleared.source
  obtain ⟨target, told', currency'⟩ := cleared.target
  have read : (TransferOrder.form.ofRequest r).run.Goes [] (some (.ok order)) :=
    goes_ofExcept_iff.2 ⟨rfl, congrArg some cleared.body.symm⟩
  refine goes_bind [] read ?_
  rw [TransferOrder.act, if_neg cleared.distinct]
  refine goes_bind [first] (goes_accountIn told currency) ?_
  rw [if_neg (not_not_intro owner)]
  refine goes_bind [second] (goes_accountIn told' currency') ?_
  exact goes_map_iff.2 ⟨_, goes_carryOut_iff.2 ⟨result, h, rfl⟩, rfl⟩

/-! ### Whole requests -/

/-- The answer with the data of a handler, or with its failure. -/
def Response.of : Except Failure Json.Value → Response
  | .ok data => .ok data
  | .error f => .ofFailure f

theorem goes_respond_iff {x : Handler Json.Value} {response : Option Response} :
    (respond x).Goes log response ↔
      ∃ result, x.run.Goes log result ∧ response = result.map Response.of := by
  have answered : respond x = x.run >>= fun result => pure (Response.of result) := by
    refine congrArg (x.run >>= ·) (funext fun result => ?_)
    cases result <;> rfl
  rw [answered, goes_bind_pure_iff]

/-- What is answered once it is known whether a handler goes on. -/
theorem goes_respond_ofExcept_iff {result : Except Failure α}
    {f : α → Handler Json.Value} {response : Option Response} :
    (respond (Handler.ofExcept result >>= f)).Goes log response ↔
      (∃ a, result = .ok a ∧ (respond (f a)).Goes log response) ∨
        ∃ failure, result = .error failure ∧ log = [] ∧ response = some (.ofFailure failure) := by
  cases result with
  | ok a =>
    have goesOn : respond (Handler.ofExcept (.ok a) >>= f) = respond (f a) := rfl
    simp [goesOn]
  | error failure =>
    have ends : respond (Handler.ofExcept (.error failure) >>= f) = pure (.ofFailure failure) := rfl
    simp [ends, goes_pure_iff]

/-- Nothing is asked, and the answer is a bad request. -/
def RefusedAtOnce (goes : List Exchange → Option Response → Prop) : Prop :=
  ∃ message, ∀ log response,
    goes log response ↔ log = [] ∧ response = some (.ofFailure ⟨400, 1001, message⟩)

theorem refusedAtOnce_badRequest (message : String) (f : α → Handler Json.Value) :
    RefusedAtOnce (respond (Handler.ofExcept (.error (.badRequest message)) >>= f)).Goes :=
  ⟨message, fun _ _ => goes_pure_iff⟩

/-- A request is answered at the endpoint of its method and path. -/
theorem handle_of_endpoint {auth : Authority} {r : Request} {endpoint : Endpoint}
    (offered : (endpoints r.path).lookup r.method = some endpoint) (whole : r.method ≠ "HEAD") :
    handle auth r = (serve auth r endpoint).respond := by
  have some : (endpoints r.path).isEmpty = false := by
    cases h : endpoints r.path with
    | nil =>
      rw [h] at offered
      cases offered
    | cons => rfl
  have answered : answer auth r = (serve auth r endpoint).respond := by
    simp [answer, some, whole, offered]
  simp [handle, answered, whole]

variable {auth : Authority} {r : Request} {response : Option Response}

theorem handle_transfer (method : r.method = "POST") (path : r.path = "/transfers") :
    handle auth r =
      respond (auth.authenticate r.headers >>= fun payload => transfer payload r) := by
  have offered : (endpoints r.path).lookup r.method = some (.guarded .transfer) := by
    rw [method, path]
    rfl
  exact handle_of_endpoint offered (by simp [method])

/-- A request to move money writes nothing, and has not timed out; or the subject of its token was
cleared, and it is answered with what came of the transfer. -/
theorem handle_transfer_cases (method : r.method = "POST") (path : r.path = "/transfers")
    (h : (handle auth r).Goes log response) :
    ((∀ request ∈ requests log, request.isLookup) ∧ ∀ a, response = some a → a.status ≠ 504) ∨
      ∃ (now : Timestamp) (payload : Token.Payload) (order : TransferOrder)
        (first second : Exchange) (rest : List Exchange)
        (result : Option (Except Store.Error Ledger.Receipt)),
        log = ⟨.time .tokens, now⟩ :: first :: second :: rest ∧
        Bearer.authenticate auth.maker now r.headers = .ok payload ∧
        Cleared payload r order first second ∧
        (Ledger.storedTransfer order.movement).Goes rest result ∧
        response = some (.of ((outcome result).map Ledger.Receipt.toJson)) := by
  rw [handle_transfer method path] at h
  obtain ⟨ended, served, rfl⟩ := goes_respond_iff.1 h
  have turnedAway (away : TurnedAway log ended) :
      (∀ request ∈ requests log, request.isLookup) ∧
        ∀ a, ended.map Response.of = some a → a.status ≠ 504 := by
    refine ⟨away.looked, fun a answered => ?_⟩
    obtain ⟨result, hresult, rfl⟩ := Option.map_eq_some_iff.1 answered
    obtain ⟨failure, rfl, other⟩ := away.failed result hresult
    exact other
  rcases (checks_authenticate auth r.headers).bind_cases served with
    away | ⟨payload, front, back, rfl, looked, ⟨now, rfl, presented⟩, moving⟩
  · exact .inl (turnedAway away)
  · rcases transfer_cases moving with
      away | ⟨order, first, second, rest, result, rfl, cleared, moved, rfl⟩
    · exact .inl (turnedAway (.after looked away))
    · exact .inr ⟨now, payload, order, first, second, rest, result, rfl, presented, cleared, moved,
        rfl⟩

/-- A request that is cleared can be answered with whatever can come of the transfer. -/
theorem goes_handle_transfer (method : r.method = "POST") (path : r.path = "/transfers")
    {now : Timestamp} {payload : Token.Payload} {order : TransferOrder} {first second : Exchange}
    (presented : Bearer.authenticate auth.maker now r.headers = .ok payload)
    (cleared : Cleared payload r order first second)
    {result : Option (Except Store.Error Ledger.Receipt)}
    (h : (Ledger.storedTransfer order.movement).Goes log result) :
    (handle auth r).Goes (⟨.time .tokens, now⟩ :: first :: second :: log)
      (some (.of ((outcome result).map Ledger.Receipt.toJson))) := by
  rw [handle_transfer method path]
  have authentic : (auth.authenticate r.headers).run.Goes [⟨.time .tokens, now⟩]
      (some (.ok payload)) := goes_authenticate_iff.2 ⟨now, rfl, congrArg some presented.symm⟩
  exact goes_respond_iff.2 ⟨_, goes_bind [_] authentic (goes_transfer cleared h), rfl⟩

end Teller.Gateway
