import Teller.Gateway.Accounts
import Teller.Ledger.Stored

/-!
# Transfers

Before any money moves, in this order: the two accounts differ, the source exists and has the
currency of the order, it belongs to the subject of the token, and the target exists and has that
currency.

The transfer has a limited time, and is given up if a reply of the database does not come within it.
-/

namespace Teller.Gateway

/-- The failure of an order in a currency that one of its accounts does not have. -/
def currencyMismatch (account : Account) (currency : String) : Failure :=
  ⟨400, Code.currencyMismatch, "account [" ++ toString account.id ++ "] currency mismatch: "
    ++ account.currency ++ " vs " ++ currency⟩

/-- The account of this number, which must hold the currency. -/
def accountIn (currency : String) (id : Int64) : Handler Account := do
  let account ← Handler.find (absentAccount id) (Store.account id.toInt)
  if account.currency ≠ currency then throw (currencyMismatch account currency)
  return account

/-- The movement that the order asks the ledger for. -/
def TransferOrder.movement (order : TransferOrder) : Ledger.Movement :=
  ⟨order.fromAccount.toInt, order.toAccount.toInt, order.amount⟩

/-- The failure of a transfer that was not finished in its time. -/
def timedOut : Failure := ⟨504, Code.timeout, "transfer timed out"⟩

/-- Moves the money in the time there is. -/
def carryOut (order : TransferOrder) : Handler Ledger.Receipt := do
  match ← (Ledger.storedTransfer order.movement).limited with
  | none => throw timedOut
  | some (.ok receipt) => return receipt
  | some (.error e) => throw (.ofStore e)

/-- Checks an order of money, account by account, and carries it out. -/
def TransferOrder.act (payload : Token.Payload) (order : TransferOrder) : Handler Json.Value := do
  if order.fromAccount = order.toAccount then
    throw (.badRequest "cannot transfer to the same account")
  let source ← accountIn order.currency order.fromAccount
  if source.owner ≠ payload.username then throw (notYours "from account")
  let _ ← accountIn order.currency order.toAccount
  let receipt ← carryOut order
  return receipt.toJson

/-- Moves money as the body of a request orders. -/
def transfer (payload : Token.Payload) (r : Request) : Handler Json.Value := do
  (← TransferOrder.form.ofRequest r).act payload

end Teller.Gateway
