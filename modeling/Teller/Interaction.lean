import Teller.Password
import Teller.Store.Statement
import Teller.Token.Maker

/-!
# Interactions

What the service does to answer a request depends on the world around it: the database, the clocks
and the sources of randomness. An interaction asks the world one question after the other, each
chosen by the answers before it, and ends with a value.

A question to the database may stay without an answer. Whoever waits for it stalls, unless the wait
is limited.
-/

namespace Teller

/-- The clock that dates tokens, and the clock on the wall. -/
inductive Clock where
  | tokens
  | wall
deriving DecidableEq

/-- What the service can ask the world. -/
inductive Question where
  | send (request : Store.Request)
  | time (clock : Clock)
  /-- An identifier that was never given before. -/
  | identifier
  | nonce
  | salt
deriving DecidableEq

/-- The kind of answer that a question gets. Only a request may stay without one. -/
def Question.Answer : Question → Type
  | .send _ => Option Store.Reply
  | .time _ => Timestamp
  | .identifier => Uuid
  | .nonce => Token.Sealed.Nonce
  | .salt => Password.Salt

/-- Questions to the world, one after the other, and what comes of them. -/
inductive Interaction (α : Type) where
  | done (x : α)
  | stalled
  | ask (question : Question) (next : question.Answer → Interaction α)

namespace Interaction

variable {α β σ : Type}

/-- Goes on after the end of an interaction. -/
def andThen : Interaction α → (α → Interaction β) → Interaction β
  | .done x, f => f x
  | .stalled, _ => .stalled
  | .ask q next, f => .ask q fun a => (next a).andThen f

instance : Monad Interaction where
  pure := .done
  bind := andThen

/-- Gives up where it would stall. -/
def limited : Interaction α → Interaction (Option α)
  | .done x => .done (some x)
  | .stalled => .done none
  | .ask q next => .ask q fun a => (next a).limited

/-- Sends to the database and waits for the reply. -/
def send (request : Store.Request) : Interaction Store.Reply :=
  .ask (.send request) fun
    | some reply => .done reply
    | none => .stalled

/-- What a clock tells. -/
def time (clock : Clock) : Interaction Timestamp := .ask (.time clock) .done

def identifier : Interaction Uuid := .ask .identifier .done

def nonce : Interaction Token.Sealed.Nonce := .ask .nonce .done

def salt : Interaction Password.Salt := .ask .salt .done

/-- Takes place in a world with states `σ`, which answers each question and changes with it. There
is no value if the interaction stalls. -/
def run (world : (q : Question) → σ → q.Answer × σ) : Interaction α → σ → Option α × σ
  | .done x, s => (some x, s)
  | .stalled, s => (none, s)
  | .ask q next, s =>
    let (a, s) := world q s
    (next a).run world s

@[simp] theorem bind_done (x : α) (f : α → Interaction β) : .done x >>= f = f x := rfl

@[simp] theorem bind_stalled (f : α → Interaction β) : .stalled >>= f = .stalled := rfl

@[simp] theorem bind_ask (q : Question) (next : q.Answer → Interaction α)
    (f : α → Interaction β) : .ask q next >>= f = .ask q fun a => next a >>= f := rfl

theorem bind_pure (x : Interaction α) : x >>= pure = x := by
  induction x with
  | done => rfl
  | stalled => rfl
  | ask q next ih => exact congrArg (Interaction.ask q) (funext ih)

theorem bind_assoc {γ : Type} (x : Interaction α) (f : α → Interaction β)
    (g : β → Interaction γ) : x >>= f >>= g = x >>= fun a => f a >>= g := by
  induction x with
  | done => rfl
  | stalled => rfl
  | ask q next ih => exact congrArg (Interaction.ask q) (funext ih)

instance : LawfulMonad Interaction := LawfulMonad.mk' _ bind_pure (fun _ _ => rfl) bind_assoc

/-- One interaction after the other takes place in the world that the first one leaves. -/
theorem run_bind (world : (q : Question) → σ → q.Answer × σ) (x : Interaction α)
    (f : α → Interaction β) (s : σ) :
    (x >>= f).run world s = match x.run world s with
      | (some a, s) => (f a).run world s
      | (none, s) => (none, s) := by
  induction x generalizing s with
  | done => rfl
  | stalled => rfl
  | ask q next ih => exact ih _ _

end Interaction

end Teller
