import Teller.Proofs.Gateway.Checks
import Teller.Store.Database

/-!
# A world with a database

A request that is sent reaches the database, which carries it out and replies. Or something fails on
the way there or back, and whoever has asked cannot tell whether it was carried out. No other
question changes the database.
-/

namespace Teller

namespace Store

/-- Whether the reply is an error. -/
def Reply.isFailure : Reply → Bool
  | .rows _ | .affected _ => false
  | .refused _ _ | .broken => true

namespace Database

/-- What becomes of a request that is sent to a database: a reply, or none, and the database after
it. -/
inductive Serves (db : Database) (request : Request) : Option Reply → Database → Prop where
  | replied : Serves db request (some (db.answer request).1) (db.answer request).2
  | failed {reply : Option Reply} {after : Database} (failure : reply.all Reply.isFailure)
      (left : after = db ∨ after = (db.answer request).2) : Serves db request reply after

variable {db after : Database} {request : Request} {reply : Option Reply}

theorem Serves.left (h : db.Serves request reply after) :
    after = db ∨ after = (db.answer request).2 := by
  cases h with
  | replied => exact .inr rfl
  | failed _ left => exact left

/-- A reply that is no failure tells what was done. -/
theorem Serves.of_success {reply : Reply} (h : db.Serves request (some reply) after)
    (success : reply.isFailure = false) :
    reply = (db.answer request).1 ∧ after = (db.answer request).2 := by
  cases h with
  | replied => exact ⟨rfl, rfl⟩
  | failed failure _ =>
    rw [Option.all_some, success] at failure
    cases failure

theorem answer_of_isLookup (h : request.isLookup) : (db.answer request).2 = db := by
  cases request with
  | query statement arguments => cases statement <;> first | rfl | cases h
  | start | commit | rollback => cases h

end Database

end Store

open Store Interaction

variable {σ : Type}

/-- The state of a world has a database in it, which serves the requests and nothing else. -/
structure Backs (database : σ → Database) (world : (q : Question) → σ → q.Answer × σ) : Prop where
  serves : ∀ request s, (database s).Serves request (world (.send request) s).1
    (database (world (.send request) s).2)
  aside : ∀ q s, (∀ request, q ≠ .send request) → database (world q s).2 = database s

namespace Backs

variable {database : σ → Database} {world : (q : Question) → σ → q.Answer × σ} {s s' : σ}
  {log : List Exchange}

/-- What only looks something up leaves the database as it is. -/
theorem same_of_lookups (backs : Backs database world) (told : Told world s log s')
    (looked : ∀ request ∈ requests log, request.isLookup) : database s' = database s := by
  induction told with
  | nil s => rfl
  | @cons q s s' log later ih =>
    cases q with
    | send request =>
      have first : request.isLookup := looked request List.mem_cons_self
      rw [ih fun other h => looked other (List.mem_cons_of_mem _ h)]
      have left := (backs.serves request s).left
      rw [Database.answer_of_isLookup first] at left
      exact left.elim id id
    | time | identifier | nonce | salt =>
      rw [ih looked]
      exact backs.aside _ s nofun

theorem serves_of_told (backs : Backs database world) {request : Store.Request}
    {reply : Option Reply} (told : Told world s [.sent request reply] s') :
    (database s).Serves request reply (database s') := by
  cases told with
  | cons q later =>
    cases later
    exact backs.serves request s

end Backs

/-! ### What is answered -/

namespace Exchange

/-- The identifier that was drawn, if it was one. -/
def identifier? : Exchange → Option Uuid
  | ⟨.identifier, id⟩ => some id
  | ⟨.send _, _⟩ | ⟨.time _, _⟩ | ⟨.nonce, _⟩ | ⟨.salt, _⟩ => none

/-- Whether a request was answered with success, if one was sent. -/
def isReplied : Exchange → Bool
  | ⟨.send _, reply⟩ => reply.any fun told => !told.isFailure
  | ⟨.time _, _⟩ | ⟨.identifier, _⟩ | ⟨.nonce, _⟩ | ⟨.salt, _⟩ => true

theorem isReplied_sent_iff {request : Store.Request} {reply : Option Reply} :
    (sent request reply).isReplied ↔ ∃ told, reply = some told ∧ told.isFailure = false := by
  cases reply <;> simp [sent, isReplied]

end Exchange

/-- The identifiers that were drawn, in order. -/
def identifiers (log : List Exchange) : List Uuid := log.filterMap Exchange.identifier?

/-! ### Worlds that are known beforehand -/

/-- How a database replies that always does. -/
def Store.Database.reply (request : Store.Request) (db : Database) : Option Reply × Database :=
  (some (db.answer request).1, (db.answer request).2)

theorem backs_reply : Backs World.database (World.answer Database.reply) where
  serves _ _ := .replied
  aside q w other := by
    cases q with
    | send request => exact absurd rfl (other request)
    | time clock => cases clock <;> rfl
    | identifier | nonce | salt => rfl

namespace World

variable {δ : Type} {reply : Store.Request → δ → Option Reply × δ}

/-- What a clock of the world tells. -/
def time (w : World δ) : Clock → Timestamp
  | .tokens => w.tokenTime
  | .wall => w.wallTime

theorem time_answer (q : Question) (w : World δ) : (answer reply q w).2.time = w.time := by
  funext clock
  cases q with
  | time asked => cases asked <;> rfl
  | send | identifier | nonce | salt => cases clock <;> rfl

/-- The clocks stand still. -/
theorem time_of_told {w w' : World δ} {log : List Exchange}
    (told : Told (answer reply) w log w') {clock : Clock} {now : Timestamp}
    (mem : ⟨.time clock, now⟩ ∈ log) : now = w.time clock := by
  induction told with
  | nil => cases mem
  | @cons q w w' log later ih =>
    cases mem with
    | head => cases clock <;> rfl
    | tail _ mem => rw [ih mem, time_answer]

end World

end Teller
