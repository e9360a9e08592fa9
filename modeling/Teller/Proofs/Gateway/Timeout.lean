import Teller.Proofs.Gateway.Authorization

/-!
# Transfers that time out

A transfer that is answered as timed out was given up while it waited for one reply, and nothing was
sent after that request. If the request was not the commit, then no commit was sent and the database
can only roll back. But the time can run out while the commit itself is outstanding, and then the
database may have committed what was answered as timed out.
-/

namespace Teller.Gateway

open Store

/-- Only what was given up is answered as timed out. -/
theorem eq_none_of_status {result : Option (Except Store.Error Ledger.Receipt)}
    (late : (Response.of ((outcome result).map Ledger.Receipt.toJson)).status = 504) :
    result = none := by
  rcases result with _ | e | receipt
  · rfl
  · exact absurd late (Failure.status_ofStore_ne e)
  · cases late

/-- Whatever is requested and replied: a request to move money that is answered as timed out waits
for the reply to its last request, and has sent no commit before that one. -/
theorem timed_out_at_last_request (auth : Authority) (r : Request) (method : r.method = "POST")
    (path : r.path = "/transfers") (log : List Exchange) (response : Response)
    (goes : (handle auth r).Goes log (some response)) (late : response.status = 504) :
    ∃ before request, log = before ++ [.sent request none] ∧ .commit ∉ requests before := by
  rcases handle_transfer_cases method path goes with
    ⟨-, other⟩ |
      ⟨now, payload, order, first, second, rest, result, rfl, presented, cleared, moved, ended⟩
  · exact absurd late (other response rfl)
  · cases ended
    obtain rfl := eq_none_of_status late
    obtain ⟨source, target, authorized, ⟨row, rows, rfl, -⟩, ⟨row', rows', rfl, -⟩⟩ :=
      cleared.authorized presented
    have small : order.movement.amount ≠ Int64.minValue := authorized.small
    obtain ⟨before, request, rfl, new⟩ := Ledger.unanswered_of_stalled small moved
    exact ⟨_ :: _ :: _ :: before, request, rfl, by simpa using new⟩

/-- The database answers the insertions and then nothing. -/
def silentUpdate : World Script := .scripted (paymentReplies.take 3 ++ [none]) []

theorem silent_update_timed_out :
    ∃ response, (handle vault payment).Goes (paymentLog silentUpdate) (some response) ∧
      response.status = 504 ∧
      ∃ before request, paymentLog silentUpdate = before ++ [.sent request none] ∧
        .commit ∉ requests before := by
  have goes := goes_payment silentUpdate
  have late : (Response.of ((outcome (paymentResult silentUpdate)).map
    Ledger.Receipt.toJson)).status = 504 := by decide
  exact ⟨_, goes, late, timed_out_at_last_request vault payment rfl rfl _ _ goes late⟩

/-- The database answers all writes, but not the commit. -/
def silentCommit : World Script := .scripted paymentReplies [("COMMIT", none)]

/-- A request can be answered as timed out although a commit was sent for it. -/
theorem silent_commit_timed_out :
    ∃ response, (handle vault payment).Goes (paymentLog silentCommit) (some response) ∧
      response.status = 504 ∧ .commit ∈ requests (paymentLog silentCommit) := by
  have goes := goes_payment silentCommit
  have late : (Response.of ((outcome (paymentResult silentCommit)).map
    Ledger.Receipt.toJson)).status = 504 := by decide +kernel
  exact ⟨_, goes, late, by decide +kernel⟩

end Teller.Gateway
