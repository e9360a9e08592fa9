import Teller.World

/-!
# What is asked and answered

An interaction goes one way or another, by the answers it is given. Every way leaves a log of the
questions with their answers, and an end, unless an answer never came.

    ask q₁ ── a₁ ── ask q₂ ── a₂ ── done x         log  (q₁, a₁) (q₂, a₂)    end  x
                       └───── none ── stalled      log  (q₁, a₁) (q₂, none)  no end
-/

namespace Teller

/-- A question and its answer. -/
structure Exchange where
  question : Question
  answer : question.Answer

namespace Exchange

/-- What was sent to the database, if anything was. -/
def request? : Exchange → Option Store.Request
  | ⟨.send request, _⟩ => some request
  | ⟨.time _, _⟩ | ⟨.identifier, _⟩ | ⟨.nonce, _⟩ | ⟨.salt, _⟩ => none

/-- A request, and its reply if there was one. -/
def sent (request : Store.Request) (reply : Option Store.Reply) : Exchange := ⟨.send request, reply⟩

@[simp] theorem request?_sent (request : Store.Request) (reply : Option Store.Reply) :
    (sent request reply).request? = some request := rfl

end Exchange

/-- What was sent to the database, in order. -/
def requests (log : List Exchange) : List Store.Request := log.filterMap Exchange.request?

@[simp] theorem requests_nil : requests [] = [] := rfl

@[simp] theorem requests_sent (request : Store.Request) (reply : Option Store.Reply)
    (log : List Exchange) : requests (.sent request reply :: log) = request :: requests log := rfl

@[simp] theorem requests_time (clock : Clock) (now : Timestamp) (log : List Exchange) :
    requests (⟨.time clock, now⟩ :: log) = requests log := rfl

@[simp] theorem requests_append (front back : List Exchange) :
    requests (front ++ back) = requests front ++ requests back := List.filterMap_append

/-- A world that stands still in 1970, where the database gives these replies to statements and to
commands. -/
def World.scripted (replies : List (Option Store.Reply))
    (commands : List (String × Option Store.Reply)) : World Store.Script :=
  ⟨.ofReplies (replies.map fun reply _ => reply) commands, .epoch, .epoch, ⟨0⟩, 0, 0⟩

namespace Interaction

variable {α β σ : Type}

/-- The interaction can go this way: with this log, to this end. -/
inductive Goes : Interaction α → List Exchange → Option α → Prop where
  | done (x : α) : Goes (.done x) [] (some x)
  | stalled : Goes .stalled [] none
  | ask {q : Question} {next : q.Answer → Interaction α} {log : List Exchange} {ending : Option α}
      (a : q.Answer) (rest : Goes (next a) log ending) : Goes (.ask q next) (⟨q, a⟩ :: log) ending

/-- The log of an interaction in a world that answers each question. -/
def log (world : (q : Question) → σ → q.Answer × σ) : Interaction α → σ → List Exchange
  | .done _, _ => []
  | .stalled, _ => []
  | .ask q next, s =>
    let (a, s) := world q s
    ⟨q, a⟩ :: (next a).log world s

/-- In every world an interaction goes one of its ways. -/
theorem goes_log (world : (q : Question) → σ → q.Answer × σ) (x : Interaction α) (s : σ) :
    x.Goes (x.log world s) (x.run world s).1 := by
  induction x generalizing s with
  | done x => exact .done x
  | stalled => exact .stalled
  | ask q next ih => exact .ask (world q s).1 (ih _ _)

/-- The log of an interaction with a database that follows a script. -/
def scriptLog (x : Interaction α) (w : World Store.Script) : List Exchange :=
  x.log (World.answer fun request script => script.answer request) w

theorem goes_rehearse (x : Interaction α) (w : World Store.Script) :
    x.Goes (x.scriptLog w) (w.rehearse x).1 := goes_log _ x w

/-- A world answers these questions so, one after the other, and comes into another state. -/
inductive Told (world : (q : Question) → σ → q.Answer × σ) : σ → List Exchange → σ → Prop where
  | nil (s : σ) : Told world s [] s
  | cons (q : Question) {s s' : σ} {log : List Exchange} (later : Told world (world q s).2 log s') :
      Told world s (⟨q, (world q s).1⟩ :: log) s'

section

variable {world : (q : Question) → σ → q.Answer × σ} {s s' s'' : σ}

theorem Told.append {front back : List Exchange} (h : Told world s front s')
    (h' : Told world s' back s'') : Told world s (front ++ back) s'' := by
  induction h with
  | nil s => exact h'
  | cons q later ih => exact .cons q (ih h')

theorem Told.of_append {front back : List Exchange} (h : Told world s (front ++ back) s'') :
    ∃ s', Told world s front s' ∧ Told world s' back s'' := by
  induction front generalizing s with
  | nil => exact ⟨s, .nil s, h⟩
  | cons e front ih =>
    cases h with
    | cons q later =>
      obtain ⟨s', first, second⟩ := ih later
      exact ⟨s', .cons q first, second⟩

theorem Told.of_prefix {front log : List Exchange} (h : Told world s log s')
    (sub : front <+: log) : ∃ s₁, Told world s front s₁ := by
  obtain ⟨rest, rfl⟩ := sub
  obtain ⟨s₁, first, -⟩ := h.of_append
  exact ⟨s₁, first⟩

theorem told_log (world : (q : Question) → σ → q.Answer × σ) (x : Interaction α) (s : σ) :
    Told world s (x.log world s) (x.run world s).2 := by
  induction x generalizing s with
  | done x => exact .nil s
  | stalled => exact .nil s
  | ask q next ih => exact .cons q (ih _ _)

/-- An interaction goes the one way that the world's answers lead. -/
theorem Goes.eq_of_told {x : Interaction α} {log : List Exchange} {ending : Option α}
    (h : x.Goes log ending) (told : Told world s log s') :
    x.log world s = log ∧ x.run world s = (ending, s') := by
  induction h generalizing s with
  | done x =>
    cases told
    exact ⟨rfl, rfl⟩
  | stalled =>
    cases told
    exact ⟨rfl, rfl⟩
  | @ask q next log ending a rest ih =>
    cases told with
    | cons q later =>
      obtain ⟨sameLog, sameRun⟩ := ih later
      exact ⟨congrArg _ sameLog, sameRun⟩

end

variable {log : List Exchange}

theorem goes_pure_iff {x : α} {ending : Option α} :
    (pure x : Interaction α).Goes log ending ↔ log = [] ∧ ending = some x := by
  constructor
  · intro h
    cases h
    exact ⟨rfl, rfl⟩
  · rintro ⟨rfl, rfl⟩
    exact .done x

theorem goes_ask_iff {q : Question} {next : q.Answer → Interaction α} {ending : Option α} :
    (ask q next).Goes log ending ↔
      ∃ a rest, log = ⟨q, a⟩ :: rest ∧ (next a).Goes rest ending := by
  constructor
  · intro h
    cases h with
    | ask a rest => exact ⟨a, _, rfl, rest⟩
  · rintro ⟨a, rest, rfl, h⟩
    exact .ask a h

theorem Goes.bind {x : Interaction α} {f : α → Interaction β} {front back : List Exchange} {a : α}
    {ending : Option β} (hx : x.Goes front (some a)) (hf : (f a).Goes back ending) :
    (x >>= f).Goes (front ++ back) ending := by
  induction x generalizing front with
  | done y =>
    cases hx
    exact hf
  | stalled => cases hx
  | ask q next ih =>
    obtain ⟨b, rest, rfl, h⟩ := goes_ask_iff.1 hx
    exact .ask b (ih b h)

/-- One interaction after the other: the first one stalls, or the second goes on from its end. -/
theorem Goes.bind_cases {x : Interaction α} {f : α → Interaction β} {ending : Option β}
    (h : (x >>= f).Goes log ending) :
    (x.Goes log none ∧ ending = none) ∨
      ∃ a front back, log = front ++ back ∧ x.Goes front (some a) ∧ (f a).Goes back ending := by
  induction x generalizing log with
  | done a => exact .inr ⟨a, [], log, rfl, .done a, h⟩
  | stalled =>
    cases h
    exact .inl ⟨.stalled, rfl⟩
  | ask q next ih =>
    obtain ⟨b, rest, rfl, hrest⟩ := goes_ask_iff.1 h
    rcases ih b hrest with ⟨stalls, none⟩ | ⟨a, front, back, rfl, hx, hf⟩
    · exact .inl ⟨.ask b stalls, none⟩
    · exact .inr ⟨a, ⟨q, b⟩ :: front, back, rfl, .ask b hx, hf⟩

/-- An interaction whose end is looked at once. -/
theorem goes_bind_pure_iff {x : Interaction α} {f : α → β} {ending : Option β} :
    (x >>= fun a => pure (f a)).Goes log ending ↔
      ∃ result, x.Goes log result ∧ ending = result.map f := by
  constructor
  · intro h
    rcases h.bind_cases with ⟨stalls, rfl⟩ | ⟨a, front, back, rfl, hx, rest⟩
    · exact ⟨none, stalls, rfl⟩
    · obtain ⟨rfl, rfl⟩ := goes_pure_iff.1 rest
      rw [List.append_nil]
      exact ⟨some a, hx, rfl⟩
  · rintro ⟨result, hx, rfl⟩
    induction hx with
    | done x => exact .done (f x)
    | stalled => exact .stalled
    | ask a rest ih => exact .ask a ih

/-- With limited time an interaction asks the same, and ends also where it would stall. -/
theorem goes_limited_iff {x : Interaction α} {ending : Option (Option α)} :
    x.limited.Goes log ending ↔ ∃ result, x.Goes log result ∧ ending = some result := by
  constructor
  · intro h
    induction x generalizing log with
    | done x =>
      cases h
      exact ⟨some x, .done x, rfl⟩
    | stalled =>
      cases h
      exact ⟨none, .stalled, rfl⟩
    | ask q next ih =>
      obtain ⟨a, rest, rfl, hrest⟩ := goes_ask_iff.1 h
      obtain ⟨result, hresult, ended⟩ := ih a hrest
      exact ⟨result, .ask a hresult, ended⟩
  · rintro ⟨result, h, rfl⟩
    induction h with
    | done x => exact .done _
    | stalled => exact .done _
    | ask a rest ih => exact .ask a ih

/-- A request whose reply is looked at once. -/
theorem goes_send_iff {request : Store.Request} {f : Store.Reply → α} {ending : Option α} :
    (send request >>= fun reply => pure (f reply)).Goes log ending ↔
      ∃ reply, log = [.sent request reply] ∧ ending = reply.map f := by
  constructor
  · intro h
    obtain ⟨reply, rest, rfl, hrest⟩ := goes_ask_iff.1 h
    cases reply with
    | none =>
      cases hrest
      exact ⟨none, rfl, rfl⟩
    | some reply =>
      cases hrest
      exact ⟨some reply, rfl, rfl⟩
  · rintro ⟨reply, rfl, rfl⟩
    refine goes_ask_iff.2 ⟨reply, [], rfl, ?_⟩
    cases reply with
    | none => exact .stalled
    | some reply => exact .done _

end Interaction

end Teller
