import Teller.Calendar
import Teller.Json.Value
import Teller.Ledger.Work

/-!
# Rows as clients see them

Accounts, entries and transfers are shown with all their fields, users without the hash of their
password. Times are written by RFC 3339.
-/

namespace Teller

open Json (Value)

/-- Times are shown as text. -/
def Timestamp.toJson (t : Timestamp) : Value := .text t.text

/-- An account as its owner sees it. -/
def Account.toJson (a : Account) : Value :=
  .object [("id", .integer a.id), ("owner", .text a.owner), ("currency", .text a.currency),
    ("balance", .integer a.balance.toInt), ("created_at", a.createdAt.toJson)]

def Entry.toJson (e : Entry) : Value :=
  .object [("id", .integer e.id), ("account_id", .integer e.account),
    ("amount", .integer e.amount.toInt), ("created_at", e.createdAt.toJson)]

/-- A transfer as it is shown to whoever made it. -/
def Transfer.toJson (t : Transfer) : Value :=
  .object [("id", .integer t.id), ("from_account_id", .integer t.source),
    ("to_account_id", .integer t.target), ("amount", .integer t.amount.toInt),
    ("created_at", t.createdAt.toJson)]

/-- A user without the password and its hash. -/
def User.toJson (u : User) : Value :=
  .object [("username", .text u.username), ("full_name", .text u.fullName),
    ("email", .text u.email), ("password_changed_at", u.passwordChangedAt.toJson),
    ("created_at", u.createdAt.toJson)]

/-- All five rows that a transfer has written. -/
def Ledger.Receipt.toJson (r : Ledger.Receipt) : Value :=
  .object [("transfer", r.transfer.toJson), ("from_account", r.source.toJson),
    ("to_account", r.target.toJson), ("from_entry", r.debit.toJson),
    ("to_entry", r.credit.toJson)]

end Teller
