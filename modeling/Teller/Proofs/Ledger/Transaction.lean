import Teller.Ledger.Stored
import Teller.Proofs.Dialogue
import Teller.Proofs.Ledger.Coordinator

/-!
# What is sent in a transaction

The store sends one request after the other, and the next one only if the one before was met: a
statement that answers with a row has to be answered with one that can be read. A transaction whose
requests are all met is committed. After a write that is refused it is rolled back, and after one
that is never answered nothing more is sent.

    requests    BEGIN   write   write   COMMIT
    log         met     met     met     met          the unit of work has succeeded
                met     refused         ROLLBACK     it has failed
                met     silence                      it stalls
-/

namespace Teller

namespace Store

/-- The table whose row a statement is answered with. -/
def Statement.table? : Statement → Option Table
  | .insert t _ _ | .select _ t _ _ | .update t _ _ _ => some t
  | .delete _ _ | .ping => none

/-- Whether some cells can be read as a row of a table. -/
def Table.reads (cells : Cells) : Table → Bool
  | .users => (User.ofCells cells).isOk
  | .accounts => (Account.ofCells cells).isOk
  | .entries => (Entry.ofCells cells).isOk
  | .transfers => (Transfer.ofCells cells).isOk
  | .sessions => (Session.ofCells cells).isOk

/-- Whether a reply gives a request what it asks for: a row where one is awaited, and else no
refusal. -/
def Request.isMetBy (request : Request) (reply : Reply) : Bool :=
  match request with
  | .start | .commit | .rollback => reply.count?.isOk
  | .query s _ =>
    match s.table?, reply with
    | none, reply => reply.count?.isOk
    | some t, .rows (row :: _) => t.reads (s.answer.zip row)
    | some _, _ => false

/-- What the first row of a reply to a statement reads as. -/
def Statement.first {α : Type} (s : Statement) (read : Cells → Except Cause α) (reply : Reply) :
    Except Error α := do
  readFirst s.answer read (← reply.rows?)

theorem Statement.first_eq_ok_iff {α : Type} {s : Statement} {read : Cells → Except Cause α}
    {reply : Reply} {x : α} : s.first read reply = .ok x ↔
      ∃ row rows, reply = .rows (row :: rows) ∧ read (s.answer.zip row) = .ok x := by
  have found (row : List Value) (rows : List (List Value)) :
      s.first read (.rows (row :: rows)) = (read (s.answer.zip row)).mapError .database := rfl
  constructor
  · intro h
    cases reply with
    | rows rows =>
      cases rows with
      | nil => cases h
      | cons row rows =>
        rw [found] at h
        refine ⟨row, rows, rfl, ?_⟩
        cases told : read (s.answer.zip row) with
        | ok y =>
          rw [told] at h
          cases h
          rfl
        | error e =>
          rw [told] at h
          cases h
    | affected | refused | broken => cases h
  · rintro ⟨row, rows, rfl, told⟩
    rw [found, told]
    rfl

end Store

open Store

namespace Exchange

/-- Whether a request was met; all other questions are answered in any case. -/
def isMet : Exchange → Bool
  | ⟨.send request, reply⟩ => Option.any request.isMetBy reply
  | ⟨.time _, _⟩ | ⟨.identifier, _⟩ | ⟨.nonce, _⟩ | ⟨.salt, _⟩ => true

@[simp] theorem isMet_sent (request : Request) (reply : Option Reply) :
    (sent request reply).isMet = reply.any request.isMetBy := rfl

/-- A statement was answered with rows of which the first one reads as `x`. -/
def Tells {α : Type} (e : Exchange) (s : Statement) (arguments : List Value)
    (read : Cells → Except Cause α) (x : α) : Prop :=
  ∃ row rows, e = sent (.query s arguments) (some (.rows (row :: rows))) ∧
    read (s.answer.zip row) = .ok x

end Exchange

/-! ### Requests in a given order -/

/-- The log of sending some requests in order, up to the first that is not met. In the end all of
them were met (`some true`), or the last one was refused (`some false`) or not answered (`none`). -/
inductive Follows : List Request → List Exchange → Option Bool → Prop where
  | finished : Follows [] [] (some true)
  | unanswered (request : Request) (rest : List Request) :
      Follows (request :: rest) [.sent request none] none
  | refused {request : Request} {reply : Reply} (rest : List Request)
      (unmet : request.isMetBy reply = false) :
      Follows (request :: rest) [.sent request (some reply)] (some false)
  | met {request : Request} {reply : Reply} {rest : List Request} {log : List Exchange}
      {ending : Option Bool} (met : request.isMetBy reply = true)
      (later : Follows rest log ending) :
      Follows (request :: rest) (.sent request (some reply) :: log) ending

namespace Follows

variable {sent more : List Request} {log back : List Exchange} {ending : Option Bool}

theorem append (h : Follows sent log ending) (completed : ending = some true)
    {ending' : Option Bool} (h' : Follows more back ending') :
    Follows (sent ++ more) (log ++ back) ending' := by
  induction h with
  | finished => exact h'
  | unanswered => cases completed
  | refused => cases completed
  | met hmet later ih => exact .met hmet (ih completed)

/-- What is not completed is not completed with more to send. -/
theorem append_right (h : Follows sent log ending) (broken : ending ≠ some true) :
    Follows (sent ++ more) log ending := by
  induction h with
  | finished => exact absurd rfl broken
  | unanswered request rest => exact .unanswered request (rest ++ more)
  | refused rest unmet => exact .refused (rest ++ more) unmet
  | met hmet later ih => exact .met hmet (ih broken)

theorem requests_prefix (h : Follows sent log ending) : requests log <+: sent := by
  induction h with
  | finished => exact List.prefix_rfl
  | unanswered request rest => simp
  | refused => simp
  | met hmet later ih => simpa using ih

/-- All requests were met in the end just if the last of them were sent and met too. -/
theorem completed_iff (h : Follows sent log ending) :
    ending = some true ↔ sent <+: requests (log.takeWhile Exchange.isMet) := by
  induction h with
  | finished => simp
  | unanswered request rest => simp
  | refused rest unmet => simp [unmet]
  | met hmet later ih => simp [hmet, ih]

/-- Where no request is left unmet all of them were sent. -/
theorem completed_of_isMet (h : Follows sent log ending) (all : ∀ e ∈ log, e.isMet) :
    ending = some true ∧ requests log = sent := by
  induction h with
  | finished => exact ⟨rfl, rfl⟩
  | unanswered request rest => simp at all
  | refused rest unmet => simp [unmet] at all
  | met hmet later ih =>
    obtain ⟨completed, rest⟩ := ih fun e he => all e (List.mem_cons_of_mem _ he)
    rw [requests_sent, rest]
    exact ⟨completed, rfl⟩

/-- Before each exchange all others were met. -/
theorem isMet_before (h : Follows sent log ending) {before after : List Exchange} {e : Exchange}
    (split : log = before ++ e :: after) : ∀ b ∈ before, b.isMet := by
  induction h generalizing before with
  | finished => simp at split
  | unanswered | refused =>
    cases before with
    | nil => simp
    | cons b before => simp at split
  | met hmet _ ih =>
    cases before with
    | nil => simp
    | cons b before =>
      obtain ⟨rfl, later⟩ := List.cons.inj split
      simpa [hmet] using ih later

/-- The last request is sent just if all others were met. -/
theorem last_sent_iff {front : List Request} {last : Request}
    (h : Follows (front ++ [last]) log ending) (new : last ∉ front) :
    last ∈ requests log ↔ front <+: requests (log.takeWhile Exchange.isMet) := by
  induction front generalizing log with
  | nil => cases h <;> simp
  | cons request front ih =>
    rw [List.mem_cons, not_or] at new
    cases h with
    | unanswered => simp [new.1]
    | refused rest unmet => simp [new.1, unmet]
    | met met later => simp [new.1, met, ih later new.2]

/-- All requests were met in the end just if the last one was. -/
theorem completed_iff_last_met {front : List Request} {last : Request}
    (h : Follows (front ++ [last]) log ending) (new : last ∉ front) :
    ending = some true ↔ ∃ e ∈ log, e.request? = some last ∧ e.isMet := by
  induction front generalizing log with
  | nil =>
    cases h with
    | unanswered => simp
    | refused rest unmet => simp [unmet]
    | met met later =>
      cases later
      simp [met]
  | cons request front ih =>
    rw [List.mem_cons, not_or] at new
    cases h with
    | unanswered => simp
    | refused rest unmet => simp [unmet]
    | met met later => simp [Ne.symm new.1, ih later new.2]

/-- After a request that is not met, nothing is counted as met before the first that is not. -/
theorem takeWhile_append (h : Follows sent log ending) (broken : ending ≠ some true) :
    (log ++ back).takeWhile Exchange.isMet = log.takeWhile Exchange.isMet := by
  induction h with
  | finished => exact absurd rfl broken
  | unanswered => simp
  | refused rest unmet => simp [unmet]
  | met met later ih => simp [met, ih broken]

/-- Where the answer is missing, it is that to the last request. -/
theorem unanswered_last (h : Follows sent log ending) (stalled : ending = none) :
    ∃ before request, log = before ++ [.sent request none] := by
  induction h with
  | finished => cases stalled
  | unanswered request rest => exact ⟨[], request, rfl⟩
  | refused => cases stalled
  | met hmet later ih =>
    obtain ⟨before, request, rfl⟩ := ih stalled
    exact ⟨_ :: before, request, rfl⟩

end Follows

/-! ### Interactions that send requests in a given order -/

namespace Interaction

variable {α β : Type}

/-- The interaction sends these requests in order; it succeeds if all of them are met, with a log
and a value of which `post` holds. -/
def Sends (sent : List Request) (post : List Exchange → α → Prop)
    (x : Interaction (Except Store.Error α)) : Prop :=
  ∀ log ending, x.Goes log ending →
    Follows sent log (ending.map Except.isOk) ∧ ∀ a, ending = some (.ok a) → post log a

variable {sent : List Request} {post : List Exchange → α → Prop}

theorem Sends.mono {post' : List Exchange → α → Prop} {x : Interaction (Except Store.Error α)}
    (hx : x.Sends sent post) (h : ∀ log a, post log a → post' log a) : x.Sends sent post' := by
  intro log ending goes
  obtain ⟨follows, done⟩ := hx log ending goes
  exact ⟨follows, fun a ha => h log a (done a ha)⟩

theorem sends_ok (a : α) :
    (pure (.ok a) : Interaction (Except Store.Error α)).Sends [] fun log b => log = [] ∧ b = a := by
  intro log ending goes
  obtain ⟨rfl, rfl⟩ := goes_pure_iff.1 goes
  refine ⟨.finished, fun b hb => ⟨rfl, ?_⟩⟩
  cases hb
  rfl

/-- One request, whose reply is met just if something can be made of it. -/
theorem sends_request {request : Request} {make : Reply → Except Store.Error α}
    (met : ∀ reply, request.isMetBy reply = (make reply).isOk)
    (told : ∀ reply a, make reply = .ok a → post [.sent request (some reply)] a) :
    (send request >>= fun reply => pure (make reply)).Sends [request] post := by
  intro log ending goes
  obtain ⟨reply, rfl, rfl⟩ := goes_send_iff.1 goes
  cases reply with
  | none => exact ⟨.unanswered request [], nofun⟩
  | some reply =>
    cases h : make reply with
    | ok a =>
      have isMet : request.isMetBy reply = true := by rw [met, h]; rfl
      simp only [Option.map_some, h]
      refine ⟨.met isMet .finished, fun b hb => ?_⟩
      cases hb
      exact told reply a h
    | error e =>
      have unmet : request.isMetBy reply = false := by rw [met, h]; rfl
      simp only [Option.map_some, h]
      exact ⟨.refused [] unmet, nofun⟩

theorem sends_command {request : Request}
    (met : ∀ reply, request.isMetBy reply = reply.count?.isOk) :
    (command request).Sends [request] fun log _ => ∃ e, log = [e] := by
  refine sends_request (fun reply => ?_) fun reply _ _ => ⟨_, rfl⟩
  rw [met]
  cases reply.count? <;> rfl

theorem sends_fetchFirst {s : Statement} {t : Table} (arguments : List Value)
    {read : Cells → Except Cause α} (table : s.table? = some t)
    (reads : ∀ cells, t.reads cells = (read cells).isOk) :
    (fetchFirst s arguments read).Sends [.query s arguments] fun log a =>
      ∃ e, log = [e] ∧ e.Tells s arguments read a := by
  refine sends_request (fun reply => ?_) fun reply a h => ⟨_, rfl, ?_⟩
  · simp only [Request.isMetBy, table]
    cases reply with
    | rows found =>
      cases found with
      | nil => rfl
      | cons row rows =>
        change t.reads (s.answer.zip row) = ((read (s.answer.zip row)).mapError Error.database).isOk
        rw [reads]
        cases read (s.answer.zip row) <;> rfl
    | affected | refused | broken => rfl
  · obtain ⟨row, rows, rfl, told⟩ := Statement.first_eq_ok_iff.1 h
    exact ⟨row, rows, rfl, told⟩

theorem goes_fetchFirst {s : Statement} {arguments : List Value} {read : Cells → Except Cause α}
    {e : Exchange} {x : α} (told : e.Tells s arguments read x) :
    (fetchFirst s arguments read).Goes [e] (some (.ok x)) := by
  obtain ⟨row, rows, rfl, hrow⟩ := told
  refine goes_send_iff.2 ⟨some (.rows (row :: rows)), rfl, congrArg some ?_⟩
  change _ = (read (s.answer.zip row)).mapError Error.database
  rw [hrow]
  rfl

end Interaction

/-! ### Units of work in a transaction -/

namespace Ledger

open Interaction

variable {α β : Type} {sent : List Request} {post : List Exchange → α → Prop}

theorem sends_recordTransfer (m : Movement) :
    (stored.perform (Work.recordTransfer m)).Sends
      [.query .insertTransfer [.integer m.source, .integer m.target, .ofAmount m.amount]]
      fun log row => ∃ e, log = [e] ∧ e.Tells .insertTransfer
        [.integer m.source, .integer m.target, .ofAmount m.amount] Transfer.ofCells row := by
  rw [perform_recordTransfer]
  exact sends_fetchFirst _ rfl fun _ => rfl

theorem sends_recordEntry (id : Id) (n : Int64) :
    (stored.perform (Work.recordEntry id n)).Sends
      [.query .insertEntry [.integer id, .ofAmount n]]
      fun log row => ∃ e, log = [e] ∧
        e.Tells .insertEntry [.integer id, .ofAmount n] Entry.ofCells row := by
  rw [perform_recordEntry]
  exact sends_fetchFirst _ rfl fun _ => rfl

theorem sends_add (id : Id) (n : Int64) :
    (stored.perform (Work.add id n)).Sends [.query .addBalance [.ofAmount n, .integer id]]
      fun log row => ∃ e, log = [e] ∧
        e.Tells .addBalance [.ofAmount n, .integer id] Account.ofCells row := by
  rw [perform_add]
  exact sends_fetchFirst _ rfl fun _ => rfl

theorem sends_return (a : α) :
    (stored.perform (pure a)).Sends [] fun log b => log = [] ∧ b = a := sends_ok a

/-- Units of work that follow each other send their requests one after the other. -/
theorem sends_bind (more : List Request) {x : Work α} {f : α → Work β}
    {post' : List Exchange → β → Prop} (hx : (stored.perform x).Sends sent post)
    (hf : ∀ front a, post front a →
      (stored.perform (f a)).Sends more fun back b => post' (front ++ back) b) :
    (stored.perform (x >>= f)).Sends (sent ++ more) post' := by
  intro log ending goes
  rw [perform_bind] at goes
  rcases goes.bind_cases with ⟨stalls, rfl⟩ | ⟨result, front, back, rfl, goes, rest⟩
  · exact ⟨(hx log none stalls).1.append_right nofun, nofun⟩
  · obtain ⟨first, done⟩ := hx front (some result) goes
    cases result with
    | ok a =>
      obtain ⟨second, done'⟩ := hf front a (done a rfl) back ending rest
      exact ⟨first.append rfl second, done'⟩
    | error e =>
      obtain ⟨rfl, rfl⟩ := goes_pure_iff.1 rest
      rw [List.append_nil]
      exact ⟨first.append_right nofun, nofun⟩

/-- The ways of a transaction in which a unit of work sends its writes: it follows them up to its
commit, or a write is refused and it is rolled back. -/
inductive Transacts (writes : List Request) (post : List Exchange → α → Prop) :
    List Exchange → Option (Except Store.Error α) → Prop where
  | onward {log : List Exchange} {ending : Option (Except Store.Error α)}
      (follows : Follows (.start :: (writes ++ [.commit])) log (ending.map Except.isOk))
      (done : ∀ a, ending = some (.ok a) →
        ∃ b middle e, log = b :: (middle ++ [e]) ∧ post middle a) :
      Transacts writes post log ending
  | undone {log : List Exchange} {ending : Option (Except Store.Error α)}
      (follows : Follows (.start :: writes) log (some false)) (reply : Option Reply)
      (failed : ∀ a, ending ≠ some (.ok a)) (stalled : ending = none → reply = none) :
      Transacts writes post (log ++ [.sent .rollback reply]) ending

/-- Writes that were all met are followed by a commit. The unit of work succeeds if it is met. -/
theorem Transacts.committing {b : Exchange} {middle back : List Exchange} {a : α}
    {ending : Option (Except Store.Error α)}
    {next : Except Store.Error Unit → Interaction (Except Store.Error α)}
    (follows : Follows (.start :: writes) (b :: middle) (some true)) (done : post middle a)
    (ok : next (.ok ()) = pure (.ok a)) (error : ∀ e, next (.error e) = pure (.error e))
    (goes : (stored.commit >>= next).Goes back ending) :
    Transacts writes post (b :: middle ++ back) ending := by
  have commits : stored.commit.Sends [.commit] fun log _ => ∃ e, log = [e] :=
    sends_command fun _ => rfl
  rcases goes.bind_cases with ⟨stalls, rfl⟩ | ⟨ended, closing, last, rfl, closes, rest⟩
  · exact .onward (follows.append rfl (commits back none stalls).1) nofun
  obtain ⟨met, closed⟩ := commits closing (some ended) closes
  have all := follows.append rfl met
  cases ended with
  | ok _ =>
    rw [ok] at rest
    obtain ⟨rfl, rfl⟩ := goes_pure_iff.1 rest
    obtain ⟨e, rfl⟩ := closed () rfl
    refine .onward all fun a' same => ?_
    cases same
    exact ⟨b, middle, e, rfl, done⟩
  | error e =>
    rw [error] at rest
    obtain ⟨rfl, rfl⟩ := goes_pure_iff.1 rest
    rw [List.append_nil]
    exact .onward all nofun

/-- After a write that was refused a rollback is sent, and nothing more. -/
theorem Transacts.undoing {log back : List Exchange} {e : Store.Error}
    {ending : Option (Except Store.Error α)}
    (follows : Follows (.start :: writes) log (some false))
    (goes : (stored.rollback >>= fun undo =>
      (pure (.error (failureAfter e undo)) : Interaction (Except Store.Error α))).Goes back ending) :
    Transacts writes post (log ++ back) ending := by
  obtain ⟨undo, undoing, rfl⟩ := goes_bind_pure_iff.1 goes
  obtain ⟨reply, rfl, rfl⟩ := goes_send_iff.1 undoing
  cases reply with
  | none => exact .undone follows none nofun fun _ => rfl
  | some reply => exact .undone follows (some reply) nofun nofun

/-- Whatever is replied, a transaction goes one of these ways. -/
theorem transacts {work : Work α} {writes : List Request}
    (h : (stored.perform work).Sends writes post) {log : List Exchange}
    {ending : Option (Except Store.Error α)} (goes : (stored.execute work).Goes log ending) :
    Transacts writes post log ending := by
  have starts : stored.start.Sends [.start] fun log _ => ∃ e, log = [e] :=
    sends_command fun _ => rfl
  rcases goes.bind_cases with ⟨stalls, rfl⟩ | ⟨started, front, rest, rfl, opens, going⟩
  · exact .onward ((starts _ _ stalls).1.append_right nofun) nofun
  obtain ⟨first, opened⟩ := starts front (some started) opens
  cases started with
  | error e =>
    obtain ⟨rfl, rfl⟩ := goes_pure_iff.1 going
    rw [List.append_nil]
    exact .onward (first.append_right nofun) nofun
  | ok _ =>
    obtain ⟨b, rfl⟩ := opened () rfl
    rcases going.bind_cases with ⟨stalls, rfl⟩ | ⟨result, middle, back, rfl, writing, finishing⟩
    · exact .onward (first.append rfl ((h rest none stalls).1.append_right nofun)) nofun
    obtain ⟨second, done⟩ := h middle (some result) writing
    have follows := first.append rfl second
    rw [← List.append_assoc]
    cases result with
    | ok a => exact .committing follows (done a rfl) rfl (fun _ => rfl) finishing
    | error e => exact .undoing follows finishing

end Ledger

end Teller
