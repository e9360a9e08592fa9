import Teller.Proofs.Ledger.Accounts
import Teller.Proofs.Sums

/-!
# The log tells the books

The log keeps the writes of every commit. Whatever units of work have run side by side, the log
alone tells what they have made of the books: balances, entries and transfers are those of its
writes, and nothing else has been written.

    log        [transfer, entry 1 −30, entry 2 30, add 1 −30, add 2 30]   [add 2 5]
    commits    2
    balances   1: opened − 30     2: opened + 30 + 5
    entries    (1, −30)  (2, 30)
    transfers  one

A draft has a log of its own, and mirrors it at every moment: also after a write that was refused.
-/

namespace Teller.Ledger

variable {α : Type}

/-! ### What a write tells -/

/-- What a write adds to the balance of an account. -/
def Write.adds (id : Id) : Write → Int
  | .add account delta => if account = id then delta.toInt else 0
  | .transfer | .entry .. => 0

/-- The account and the amount of an entry. -/
def Write.line? : Write → Option (Id × Int64)
  | .entry account amount => some (account, amount)
  | .transfer | .add .. => none

/-- Whether the write records a transfer. -/
def Write.isTransfer : Write → Bool
  | .transfer => true
  | .entry .. | .add .. => false

/-- What a log adds to the balance of an account. -/
def Write.addedBy (log : List Write) (id : Id) : Int := (log.map (Write.adds id)).sum

theorem Write.addedBy_append (log more : List Write) (id : Id) :
    addedBy (log ++ more) id = addedBy log id + addedBy more id := by
  rw [addedBy, List.map_append, List.sum_append]
  rfl

theorem Write.addedBy_eq_zero {log : List Write} {id : Id} (h : ∀ n, .add id n ∉ log) :
    addedBy log id = 0 := by
  refine List.sum_eq_zero fun n hn => ?_
  obtain ⟨w, hw, rfl⟩ := List.mem_map.1 hn
  cases w with
  | transfer | entry => rfl
  | add account delta => exact if_neg fun same : account = id => h delta (same ▸ hw)

/-! ### Drafts -/

/-- The draft is what its log tells, and has locked the rows that it adds to. -/
structure Draft.Mirrors (d : Draft) : Prop where
  deltas : ∀ id, (d.deltas id).toInt = Write.addedBy d.log id
  entries : d.entries.map (fun e => (e.account, e.amount)) = d.log.filterMap Write.line?
  transfers : d.transfers.length = d.log.countP Write.isTransfer
  locked : ∀ id n, .add id n ∈ d.log → id ∈ d.held

namespace Draft.Mirrors

variable {d : Draft}

theorem empty : Draft.empty.Mirrors where
  deltas _ := rfl
  entries := rfl
  transfers := rfl
  locked _ _ h := absurd h List.not_mem_nil

theorem lock (h : d.Mirrors) (id : Id) : Draft.Mirrors { d with held := id :: d.held } where
  deltas := h.deltas
  entries := h.entries
  transfers := h.transfers
  locked i n hi := List.mem_cons_of_mem id (h.locked i n hi)

/-- A write of a kind that adds to no balance. -/
theorem locked_append (h : d.Mirrors) {w : Write} (other : ∀ id n, w ≠ .add id n) :
    ∀ id n, .add id n ∈ d.log ++ [w] → id ∈ d.held := by
  intro id n hw
  rcases List.mem_append.1 hw with hw | hw
  · exact h.locked id n hw
  · exact absurd (List.mem_singleton.1 hw).symm (other id n)

theorem createTransfer (h : d.Mirrors) (mem : Memory) (m : Movement) :
    (mem.createTransfer d m).2.1.Mirrors where
  deltas id := by
    rw [Memory.createTransfer, Write.addedBy_append]
    exact (h.deltas id).trans (Int.add_zero _).symm
  entries := by
    rw [Memory.createTransfer, h.entries, List.filterMap_append]
    exact (List.append_nil _).symm
  transfers := by
    rw [Memory.createTransfer, List.length_append, List.countP_append, h.transfers]
    rfl
  locked := h.locked_append nofun

theorem createEntry (h : d.Mirrors) (mem : Memory) (id : Id) (n : Int64) :
    (mem.createEntry d id n).2.1.Mirrors where
  deltas id := by
    rw [Memory.createEntry, Write.addedBy_append]
    exact (h.deltas id).trans (Int.add_zero _).symm
  entries := by
    rw [Memory.createEntry, List.map_append, List.filterMap_append, h.entries]
    rfl
  transfers := by
    rw [Memory.createEntry, List.countP_append, h.transfers]
    rfl
  locked := h.locked_append nofun

/-- Adding to a balance, whether or not the sum is refused. -/
theorem addBalance (h : d.Mirrors) {id : Id} (locked : id ∈ d.held) (mem : Memory) (n : Int64) :
    (mem.addBalance d id n).1.Mirrors := by
  unfold Memory.addBalance
  split
  · exact h
  · split
    · exact h
    · next pending sum =>
      split
      · exact h
      · rw [Amount.add?_eq_some_iff, h.deltas] at sum
        constructor
        · intro i
          rw [Write.addedBy_append]
          change (if i = id then pending else d.deltas i).toInt =
            Write.addedBy d.log i + ((if id = i then n.toInt else 0) + 0)
          rw [Int.add_zero]
          split
          · next same => rw [sum, if_pos same.symm, same]
          · next other => rw [if_neg (Ne.symm other), h.deltas, Int.add_zero]
        · rw [List.filterMap_append]
          exact h.entries.trans (List.append_nil _).symm
        · rw [List.countP_append]
          exact h.transfers
        · intro i k hi
          rcases List.mem_append.1 hi with hi | hi
          · exact h.locked i k hi
          · cases List.mem_singleton.1 hi
            exact locked

end Draft.Mirrors

/-! ### Processes -/

/-- The draft of a process, if it has one, mirrors its log. -/
def Process.Mirrors (p : Process α) : Prop := ∀ d, p.draft? = some d → d.Mirrors

namespace Process

theorem Mirrors.of_draft {p : Process α} {d : Draft} (draft : p.draft? = some d) (h : d.Mirrors) :
    p.Mirrors := by
  intro d' hd'
  rw [draft, Option.some.injEq] at hd'
  exact hd' ▸ h

theorem Mirrors.of_none {p : Process α} (none : p.draft? = none) : p.Mirrors := by
  intro d hd
  rw [none] at hd
  cases hd

theorem Move.mirrors {isFree : Id → Bool} {mem mem' : Memory} {p p' : Process α}
    (lawful : p.Lawful mem) (move : p.Move isFree mem mem' p') (h : p.Mirrors) : p'.Mirrors := by
  cases move with
  | refused | committed | rolledBack => exact .of_none rfl
  | started => exact .of_draft rfl .empty
  | transfer => exact .of_draft rfl ((h _ rfl).createTransfer mem _)
  | entry => exact .of_draft rfl ((h _ rfl).createEntry mem _ _)
  | failed | absent | again | asked => exact .of_draft rfl (h _ rfl)
  | locked => exact .of_draft rfl ((h _ rfl).lock _)
  | updated => exact .of_draft rfl ((h _ rfl).addBalance lawful.2 mem _)

theorem stable_mirrors : Stable fun _ (p : Process α) => p.Mirrors where
  moved := fun lawful move h => move.mirrors lawful h
  respects _ h := h
  dropped _ := .of_none rfl

end Process

/-! ### Books -/

/-- The books are what their log tells, and what it adds to is there. -/
structure Books.Mirrors (openings : List Int64) (books : Books) : Prop where
  commits : books.commits = books.log.length
  tally : books.Tally openings (Write.addedBy books.log.flatten)
  entries : books.entries.map (fun e => (e.account, e.amount)) =
    books.log.flatten.filterMap Write.line?
  transfers : books.transfers.length = books.log.flatten.countP Write.isTransfer
  known : ∀ id n, .add id n ∈ books.log.flatten → (books.account? id).isSome

namespace Books.Mirrors

variable {opened : List Int64} {mem : Memory}

theorem empty : Mirrors [] .empty where
  commits := rfl
  tally := .empty
  entries := rfl
  transfers := rfl
  known _ _ h := absurd h List.not_mem_nil

theorem insertAccount (h : mem.books.Mirrors opened) (owner currency : String)
    (balance : Int64) :
    (mem.insertAccount owner currency balance).books.Mirrors (opened ++ [balance]) where
  commits := h.commits
  tally := h.tally.insertAccount
    (Write.addedBy_eq_zero fun n hn => h.tally.numbered.ne_next (h.known _ n hn) rfl) owner currency
    balance
  entries := h.entries
  transfers := h.transfers
  known id n hn := by
    rw [Memory.account?_insertAccount (h.known id n hn)]
    exact h.known id n hn

/-- The log of a draft goes to the end of the log of the books. -/
theorem flatten_commit (mem : Memory) (d : Draft) :
    (mem.commit d).books.log.flatten = mem.books.log.flatten ++ d.log := by
  change (mem.books.log ++ [d.log]).flatten = _
  rw [List.flatten_append, List.flatten_singleton]

theorem commit (h : mem.books.Mirrors opened) {d : Draft} (lawful : d.Lawful mem)
    (draft : d.Mirrors) : (mem.commit d).books.Mirrors opened where
  commits := by
    change mem.books.commits + 1 = (mem.books.log ++ [d.log]).length
    rw [h.commits, List.length_append, List.length_singleton]
  tally := by
    refine h.tally.commit lawful fun id => ?_
    rw [flatten_commit, Write.addedBy_append, draft.deltas]
  entries := by
    rw [flatten_commit, List.filterMap_append, ← h.entries, ← draft.entries, ← List.map_append]
    rfl
  transfers := by
    rw [flatten_commit, List.countP_append, ← h.transfers, ← draft.transfers, ← List.length_append]
    rfl
  known id n hn := by
    rw [Memory.account?_commit, Option.isSome_map]
    rw [flatten_commit, List.mem_append] at hn
    exact hn.elim (h.known id n) fun hn => lawful.known id (draft.locked id n hn)

end Books.Mirrors

/-! ### Runs -/

/-- Every draft mirrors its log, and the books mirror theirs. -/
structure State.Mirrors (opened : List Int64) (s : State α) : Prop where
  disciplined : s.Disciplined
  processes : ∀ (i : Nat) (p : Process α), s.processes[i]? = some p → p.Mirrors
  books : s.memory.books.Mirrors opened

/-- What a step opens is added to the openings, and the log goes on telling the books. -/
theorem State.Mirrors.step {s s' : State α} {e : Event α} {opened : List Int64}
    (hs : s.Mirrors opened) (h : s.step? e = some s') : s'.Mirrors (opened ++ openings [e]) where
  disciplined := hs.disciplined.step h
  processes := hs.disciplined.keeps (fun _ => Process.stable_mirrors) hs.processes
    (fun _ _ => .of_none rfl) h
  books := by
    cases effect h with
    | @commit i d x before event =>
      have none : openings [e] = [] := by
        cases e <;> first | rfl | cases event
      have draft : d.Mirrors := hs.processes i _ before d rfl
      rw [none, List.append_nil]
      exact hs.books.commit (hs.disciplined.lawful i _ before) draft
    | opening event =>
      subst event
      exact hs.books.insertAccount _ _ _
    | quiet books _ _ noOpening =>
      have none : openings [e] = [] := by
        cases e <;> first | rfl | exact absurd rfl (noOpening _ _ _)
      rw [none, List.append_nil, books]
      exact hs.books

theorem State.Mirrors.run {es : List (Event α)} {s s' : State α} {opened : List Int64}
    (hs : s.Mirrors opened) (h : s.run? es = some s') : s'.Mirrors (opened ++ openings es) := by
  induction es generalizing s opened with
  | nil =>
    cases h
    exact (List.append_nil opened).symm ▸ hs
  | cons e es ih =>
    obtain ⟨mid, hmid, hrest⟩ := Option.bind_eq_some_iff.1 h
    have rest := ih (hs.step hmid) hrest
    rwa [List.append_assoc, openings, openings, ← List.filterMap_append] at rest

/-- In whatever state accounts being opened and units of work running side by side have brought the
books, failures, cuts and all: there are as many commits as the log has lists of writes; each balance
is what its account was opened with and all that the log adds to it; the entries are those that the
log tells of, in its order; and there are as many transfers as it tells of. -/
theorem log_tells_books (clock : Timestamp) (es : List (Event α)) (s : State α)
    (h : State.run? ⟨.empty clock, []⟩ es = some s) :
    let books := s.memory.books
    books.commits = books.log.length ∧
    (books.accounts.length = (openings es).length ∧
      ∀ (k : Nat) a, books.accounts[k]? = some a → a.id = k + 1 ∧
        ∃ o, (openings es)[k]? = some o ∧
          a.balance.toInt = o.toInt + Write.addedBy books.log.flatten a.id) ∧
    books.entries.map (fun e => (e.account, e.amount)) =
      books.log.flatten.filterMap Write.line? ∧
    books.transfers.length = books.log.flatten.countP Write.isTransfer := by
  intro books
  have start : State.Mirrors [] (⟨.empty clock, []⟩ : State α) :=
    ⟨.of_ready (fun p hp => absurd hp List.not_mem_nil), nofun, .empty⟩
  have mirrors : books.Mirrors (openings es) := (start.run h).books
  exact ⟨mirrors.commits, ⟨mirrors.tally.opened, fun k a ha => mirrors.tally.entry ha⟩,
    mirrors.entries, mirrors.transfers⟩

/-- Adds twice to one account, writes an entry for another, and adds to none that is missing. -/
def patchwork : Work (Receipt ⊕ List Written) :=
  Sum.inr <$> Work.steps [.add 1 5, .entry 2 9, .add 1 (-2)]

/-- While a transfer from the second account waits for the first, the patchwork is committed; a unit
of work that fails and one that is cut off leave nothing. -/
def patched : List (Event (Receipt ⊕ List Written)) :=
  [.insertAccount "ada" "USD" 100, .insertAccount "bob" "USD" 50, .spawn patchwork,
      .spawn (Sum.inl <$> Work.transfer ⟨2, 1, 30⟩),
      .spawn (Sum.inr <$> Work.steps [.add 2 8, .fail (Memory.refused "boom")]),
      .spawn (Sum.inr <$> Work.steps [.add 2 8])] ++
    List.replicate 4 (.advance 0) ++ List.replicate 5 (.advance 1) ++ List.replicate 5 (.advance 2) ++
    List.replicate 3 (.advance 3) ++ .cut 3 :: List.replicate 4 (.advance 0) ++
    List.replicate 6 (.advance 1)

theorem log_tells_patched : ∃ s : State (Receipt ⊕ List Written),
    State.run? ⟨.empty .epoch, []⟩ patched = some s ∧
      s.memory.books.log = [[.add 1 5, .entry 2 9, .add 1 (-2)],
        [.transfer, .entry 2 (-30), .entry 1 30, .add 1 30, .add 2 (-30)]] ∧
      s.memory.books.commits = 2 ∧
      s.memory.books.entries.map (fun e => (e.account, e.amount)) = [(2, 9), (2, -30), (1, 30)] ∧
      s.memory.books.transfers.length = 1 := by
  have goes : ((State.run? ⟨.empty .epoch, []⟩ patched).any fun s =>
      s.memory.books.log = [[.add 1 5, .entry 2 9, .add 1 (-2)],
        [.transfer, .entry 2 (-30), .entry 1 30, .add 1 30, .add 2 (-30)]]) = true := by decide
  obtain ⟨s, hs, goes⟩ := (Option.any_eq_true _ _).1 goes
  have log := of_decide_eq_true goes
  obtain ⟨commits, -, entries, transfers⟩ := log_tells_books _ patched s hs
  rw [log] at commits entries transfers
  exact ⟨s, hs, log, commits, entries, transfers⟩

end Teller.Ledger
