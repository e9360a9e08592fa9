import Teller.Store.Database
import Teller.Store.Script

/-!
# A world that is known beforehand

The clocks stand still, and identifiers, nonces and salts are counted. Behind it is a database of
any kind `δ`: one that follows a script, or one that executes statements. What an interaction does
in such a world can be computed.
-/

namespace Teller

/-- What answers the questions of the service. -/
structure World (δ : Type) where
  database : δ
  tokenTime : Timestamp
  wallTime : Timestamp
  /-- The identifier that is given next. -/
  identifier : Uuid
  /-- How many nonces and how many salts were drawn. -/
  nonces : Nat
  salts : Nat

namespace World

variable {δ : Type}

/-- The answer to a question, where `reply` is how the database behaves. -/
def answer (reply : Store.Request → δ → Option Store.Reply × δ) (q : Question) (w : World δ) :
    q.Answer × World δ :=
  match q with
  | .send request =>
    let (r, database) := reply request w.database
    (r, { w with database := database })
  | .time .tokens => (w.tokenTime, w)
  | .time .wall => (w.wallTime, w)
  | .identifier => (w.identifier, { w with identifier := w.identifier.next })
  | .nonce => (.ofNat w.nonces, { w with nonces := w.nonces + 1 })
  | .salt => (.ofNat w.salts, { w with salts := w.salts + 1 })

/-- What comes of an interaction with a database that follows a script. -/
def rehearse {α : Type} (w : World Store.Script) (x : Interaction α) :
    Option α × World Store.Script :=
  x.run (answer fun request script => script.answer request) w

/-- What comes of an interaction with a database that executes statements. -/
def perform {α : Type} (w : World Store.Database) (x : Interaction α) :
    Option α × World Store.Database :=
  x.run (answer fun request db =>
    let (r, db) := db.answer request
    (some r, db)) w

end World

end Teller
