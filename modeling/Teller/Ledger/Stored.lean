import Teller.Ledger.Coordinator
import Teller.Store.Operation

/-!
# The ledger in the database

Each write of a unit of work is one statement in a transaction of its own unit: an insertion for a
transfer or an entry, an update for an addition to a balance. A unit that fails is ended by
ROLLBACK, and one that succeeds by COMMIT.
-/

namespace Teller.Ledger

/-- The ledger whose writes are statements to the database. -/
def stored : Ledger Interaction where
  start := Store.command .start
  createTransfer m := Store.insertTransfer m.source m.target m.amount
  createEntry := Store.insertEntry
  addBalance := Store.addBalance
  commit := Store.command .commit
  rollback := Store.command .rollback

/-- Moves money in one transaction. -/
def storedTransfer (m : Movement) : Interaction (Except Store.Error Receipt) :=
  stored.execute (Work.transfer m)

/-- Takes steps in one transaction. -/
def storedSteps (steps : List Step) : Interaction (Except Store.Error (List Written)) :=
  stored.execute (Work.steps steps)

end Teller.Ledger
