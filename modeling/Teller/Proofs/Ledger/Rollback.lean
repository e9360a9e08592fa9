import Teller.Proofs.Ledger.Contract

/-!
# Rollbacks that fail

The answer to a rollback is the last thing that happens in a transaction. It can only be put behind
the error that the unit of work has failed with.
-/

namespace Teller.Ledger

variable {α : Type}

/-! ### Any ledger -/

section

variable {m : Type → Type} [Monad m]

end

/-! ### The last call -/

end Teller.Ledger
