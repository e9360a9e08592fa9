import Teller.World

/-!
# What comes of an interaction

What an interaction comes to with a database that executes statements, whatever the clocks tell and
whatever is drawn at random. Such a database answers every request, so an interaction that ensures
anything of its end comes to an end.
-/

namespace Teller

open Store (Database)

namespace Interaction

variable {α β : Type}

/-- Comes to an end, with a value and a database of which `post` holds. -/
def Ensures (post : α → Database → Prop) : Interaction α → Database → Prop
  | .done x, db => post x db
  | .stalled, _ => False
  | .ask (.send request) next, db =>
    (next (some (db.answer request).1)).Ensures post (db.answer request).2
  | .ask (.time _) next, db => ∀ t, (next t).Ensures post db
  | .ask .identifier next, db => ∀ id, (next id).Ensures post db
  | .ask .nonce next, db => ∀ n, (next n).Ensures post db
  | .ask .salt next, db => ∀ s, (next s).Ensures post db

/-- What is ensured holds in every world around the database. -/
theorem Ensures.perform {post : α → Database → Prop} {x : Interaction α} {w : World Database}
    (h : x.Ensures post w.database) :
    ∃ a, (w.perform x).1 = some a ∧ post a (w.perform x).2.database := by
  induction x generalizing w with
  | done x => exact ⟨x, rfl, h⟩
  | stalled => exact h.elim
  | ask q next ih =>
    cases q with
    | send request => exact ih (some (w.database.answer request).1) h
    | time clock =>
      cases clock with
      | tokens => exact ih w.tokenTime (h w.tokenTime)
      | wall => exact ih w.wallTime (h w.wallTime)
    | identifier => exact ih w.identifier (h w.identifier)
    | nonce => exact ih (.ofNat w.nonces) (h _)
    | salt => exact ih (.ofNat w.salts) (h _)

variable {db : Database}

theorem Ensures.mono {post post' : α → Database → Prop} (h : ∀ a db, post a db → post' a db)
    {x : Interaction α} (hx : x.Ensures post db) : x.Ensures post' db := by
  induction x generalizing db with
  | done x => exact h x db hx
  | stalled => exact hx
  | ask q next ih =>
    cases q with
    | send request => exact ih _ hx
    | time | identifier | nonce | salt => exact fun a => ih a (hx a)

theorem Ensures.bind {post : α → Database → Prop} {post' : β → Database → Prop}
    {x : Interaction α} {f : α → Interaction β} (hx : x.Ensures post db)
    (hf : ∀ a db', post a db' → (f a).Ensures post' db') : (x >>= f).Ensures post' db := by
  induction x generalizing db with
  | done x => exact hf x db hx
  | stalled => exact hx.elim
  | ask q next ih =>
    cases q with
    | send request => exact ih _ hx
    | time | identifier | nonce | salt => exact fun a => ih a (hx a)

/-- Where every request is answered, no limit of time is reached. -/
theorem Ensures.limited {post : Option α → Database → Prop} {x : Interaction α}
    (hx : x.Ensures (fun a => post (some a)) db) : x.limited.Ensures post db := by
  induction x generalizing db with
  | done x => exact hx
  | stalled => exact hx.elim
  | ask q next ih =>
    cases q with
    | send request => exact ih _ hx
    | time | identifier | nonce | salt => exact fun a => ih a (hx a)

end Interaction

namespace Store

variable {α : Type} {db : Database}

theorem ensures_fetchFirst (post : Except Error α → Database → Prop) (s : Statement)
    (arguments : List Value) (read : Cells → Except Cause α) :
    (fetchFirst s arguments read).Ensures post db ↔
      post (do readFirst s.answer read (← (db.execute arguments s).1.rows?))
        (db.execute arguments s).2 := Iff.rfl

end Store

end Teller
