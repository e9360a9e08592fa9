import Teller.Proofs.Gateway.Transfers

/-!
# Who may move money

Money moves only for the subject of a genuine token, out of an account of that subject, and only
where the body of the request says so: whatever the database replies, a request for which anything
is written or a transaction is opened has passed every check, and has asked the database twice
before, for the row of the source and for that of the target.
-/

namespace Teller.Gateway

open Store

/-- All that has to be true of a request to move money, of the time, and of the rows of the source
and of the target as they were read. -/
structure Authorized (auth : Authority) (r : Request) (now : Timestamp) (payload : Token.Payload)
    (order : TransferOrder) (source target : Account) : Prop where
  token : ∃ value token, r.headers.text? "authorization" = some value ∧
    Bearer.parse value = .ok token ∧ auth.maker.verify token now = .ok payload
  body : Json.Reader.all TransferOrder.form.reader r.body = .ok order
  fromAccount : 1 ≤ order.fromAccount.toInt
  toAccount : 1 ≤ order.toAccount.toInt
  amount : 1 ≤ order.amount.toInt
  distinct : order.fromAccount ≠ order.toAccount
  supported : order.currency ∈ Constraint.supportedCurrencies
  owner : source.owner = payload.username
  sourceCurrency : source.currency = order.currency
  targetCurrency : target.currency = order.currency

theorem Cleared.authorized {auth : Authority} {r : Request} {now : Timestamp}
    {payload : Token.Payload} {order : TransferOrder} {first second : Exchange}
    (presented : Bearer.authenticate auth.maker now r.headers = .ok payload)
    (cleared : Cleared payload r order first second) :
    ∃ source target, Authorized auth r now payload order source target ∧
      first.Tells .account [.integer order.fromAccount.toInt] Account.ofCells source ∧
      second.Tells .account [.integer order.toAccount.toInt] Account.ofCells target := by
  obtain ⟨source, hsource, currency, owner⟩ := cleared.source
  obtain ⟨target, htarget, currency'⟩ := cleared.target
  obtain ⟨spelled, clean⟩ := Form.read_eq_ok_iff.1 cleared.body
  obtain ⟨fromAccount, toAccount, amount, supported⟩ := TransferOrder.isClean_iff.1 clean
  refine ⟨source, target, ?_, hsource, htarget⟩
  exact {
    token := Bearer.authenticate_eq_ok_iff.1 presented
    body := spelled.readable
    fromAccount := fromAccount
    toAccount := toAccount
    amount := amount
    distinct := cleared.distinct
    supported := supported
    owner := owner
    sourceCurrency := currency
    targetCurrency := currency' }

theorem Authorized.small {auth : Authority} {r : Request} {now : Timestamp}
    {payload : Token.Payload} {order : TransferOrder} {source target : Account}
    (h : Authorized auth r now payload order source target) :
    order.movement.amount ≠ Int64.minValue := by
  intro least
  have positive : 1 ≤ order.movement.amount.toInt := h.amount
  rw [least] at positive
  exact absurd positive (by decide)

/-- Whatever is requested, replied and told by the clock: if a request to move money has sent
anything but a lookup, it was authorized by what was read first, and all else that it has sent is
the protocol of the movement that its body orders, or a rollback; the only balance that loses
anything is that of the source, which loses the amount. -/
theorem money_moves_if_authorized (auth : Authority) (r : Request) (method : r.method = "POST")
    (path : r.path = "/transfers") (log : List Exchange) (response : Option Response)
    (goes : (handle auth r).Goes log response)
    (moves : ∃ request ∈ requests log, request.isLookup = false) :
    ∃ (now : Timestamp) (payload : Token.Payload) (order : TransferOrder) (source target : Account)
      (first second : Exchange) (rest : List Exchange),
      log = ⟨.time .tokens, now⟩ :: first :: second :: rest ∧
      Authorized auth r now payload order source target ∧
      first.Tells .account [.integer order.fromAccount.toInt] Account.ofCells source ∧
      second.Tells .account [.integer order.toAccount.toInt] Account.ofCells target ∧
      (∀ request ∈ requests rest, request = .rollback ∨ request ∈ order.movement.protocol) ∧
      (∀ delta id, .query .addBalance [.integer delta, .integer id] ∈ requests rest → delta < 0 →
        id = order.fromAccount.toInt ∧ delta = -order.amount.toInt) ∧
      (-order.amount).toInt = -order.amount.toInt := by
  rcases handle_transfer_cases method path goes with
    ⟨looked, -⟩ |
      ⟨now, payload, order, first, second, rest, result, rfl, presented, cleared, moved, -⟩
  · obtain ⟨request, sent, moving⟩ := moves
    have lookup := looked request sent
    rw [moving] at lookup
    cases lookup
  · obtain ⟨source, target, authorized, hsource, htarget⟩ := cleared.authorized presented
    have positive : 0 < order.movement.amount.toInt := authorized.amount
    have sent := Ledger.mem_protocol_of_goes authorized.small moved
    refine ⟨now, payload, order, source, target, first, second, rest, rfl, authorized, hsource,
      htarget, sent, fun delta id added negative => ?_, Amount.toInt_neg authorized.small⟩
    rcases sent _ added with undo | planned
    · cases undo
    · exact Ledger.Movement.source_of_negative positive planned negative

/-! ### A payment -/

/-- A key that tokens are signed with. -/
def vaultKey : Token.Signed.Key := ⟨List.replicate 32 0x2a, by decide⟩

def minute : Duration := ⟨60 * nanosPerSecond, by decide, by decide⟩

/-- The authority of the examples: signed tokens, each good for a minute. -/
def vault : Authority := ⟨.signed vaultKey, minute, minute⟩

/-- Ada's token for the first minute of 1970. -/
def adasPayload : Token.Payload :=
  ⟨⟨0⟩, "ada", .epoch, ⟨60 * nanosPerSecond, by decide, by decide⟩⟩

/-- Ada's token, as the authority signs it. -/
def adasToken : List Char := Token.Signed.sign vaultKey adasPayload

/-- Ada orders 30 to be moved from account 1 to account 2. -/
def payment : Request where
  method := "POST"
  path := "/transfers"
  query := none
  headers := [("authorization", Bearer.present adasToken),
    ("content-type", "application/json")]
  body := Utf8.ofString
    "\x7b\"from_account_id\":1,\"to_account_id\":2,\"amount\":30,\"currency\":\"USD\"\x7d"

/-- 30 dollars from Ada to Bob. -/
def paymentOrder : TransferOrder := ⟨1, 2, 30, "USD"⟩

/-- The row of an account was asked for and found. -/
def foundAccount (id : Id) (owner : String) (balance : Int) : Exchange :=
  .sent (.query .account [.integer id]) (some (.rows
    [[.integer id, .text owner, .text "USD", .integer balance, .instant .epoch]]))

theorem verify_adasToken :
    vault.maker.verify (String.ofList adasToken) .epoch = .ok adasPayload := by
  have genuine : Token.Signed.authentic? vaultKey adasToken = some adasPayload := by
    rw [adasToken, Token.Signed.authentic?_sign]
    decide +kernel
  have found : vault.maker.authentic? (String.ofList adasToken) = some adasPayload := by
    change Token.Signed.authentic? vaultKey (String.ofList adasToken).toList = _
    rw [String.toList_ofList, genuine]
  rw [Token.Maker.verify, found]
  rfl

theorem payment_presents :
    Bearer.authenticate vault.maker .epoch payment.headers = .ok adasPayload := by
  have ne : adasToken ≠ [] := by simp [adasToken, Token.Signed.sign]
  exact Bearer.authenticate_present ne (Token.Signed.sign_subset _ _) rfl verify_adasToken

theorem payment_cleared : Cleared adasPayload payment paymentOrder (foundAccount 1 "ada" 100)
    (foundAccount 2 "bob" 50) where
  body := by
    have read : (match TransferOrder.form.read payment.headers payment.body with
      | .ok order => order.fromAccount = 1 && order.toAccount = 2 && order.amount = 30 &&
          order.currency = "USD"
      | .error _ => false) = true := by decide +kernel
    split at read
    · next order taken =>
      obtain ⟨fromAccount, toAccount, amount, currency⟩ := order
      simp only [Bool.and_eq_true, decide_eq_true_iff] at read
      obtain ⟨⟨⟨rfl, rfl⟩, rfl⟩, rfl⟩ := read
      exact taken
    · cases read
  distinct := by decide
  source := ⟨⟨1, "ada", "USD", 100, .epoch⟩, ⟨_, _, rfl, rfl⟩, rfl, rfl⟩
  target := ⟨⟨2, "bob", "USD", 50, .epoch⟩, ⟨_, _, rfl, rfl⟩, rfl⟩

/-- Replies to the writes of the payment. -/
def paymentReplies : List (Option Reply) := [
  some (.rows [[.integer 1, .integer 1, .integer 2, .integer 30, .instant .epoch]]),
  some (.rows [[.integer 1, .integer 1, .integer (-30), .instant .epoch]]),
  some (.rows [[.integer 2, .integer 2, .integer 30, .instant .epoch]]),
  some (.rows [[.integer 1, .text "ada", .text "USD", .integer 70, .instant .epoch]]),
  some (.rows [[.integer 2, .text "bob", .text "USD", .integer 80, .instant .epoch]])]

/-- The log of the payment, where a script has the replies to its transfer. -/
def paymentLog (script : World Script) : List Exchange :=
  ⟨.time .tokens, .epoch⟩ :: foundAccount 1 "ada" 100 :: foundAccount 2 "bob" 50 ::
    (Ledger.storedTransfer paymentOrder.movement).scriptLog script

/-- What comes of the transfer in that case. -/
def paymentResult (script : World Script) : Option (Except Store.Error Ledger.Receipt) :=
  (script.rehearse (Ledger.storedTransfer paymentOrder.movement)).1

theorem goes_payment (script : World Script) :
    (handle vault payment).Goes (paymentLog script)
      (some (.of ((outcome (paymentResult script)).map Ledger.Receipt.toJson))) :=
  goes_handle_transfer rfl rfl payment_presents payment_cleared (Interaction.goes_rehearse _ script)

theorem payment_moves_if_authorized :
    let log := paymentLog (.scripted paymentReplies [])
    .query .addBalance [.integer (-30), .integer 1] ∈ requests log ∧
      ∃ response, (handle vault payment).Goes log response ∧
        ∃ now payload order source target,
          Authorized vault payment now payload order source target := by
  intro log
  have added : .query .addBalance [.integer (-30), .integer 1] ∈ requests log := by decide
  have goes := goes_payment (.scripted paymentReplies [])
  obtain ⟨now, payload, order, source, target, -, -, -, -, authorized, -⟩ :=
    money_moves_if_authorized vault payment rfl rfl log _ goes ⟨_, added, rfl⟩
  exact ⟨added, _, goes, now, payload, order, source, target, authorized⟩

end Teller.Gateway
