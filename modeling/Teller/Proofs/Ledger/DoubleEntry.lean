import Teller.Proofs.Ledger.Accounts
import Teller.Proofs.Ledger.Calls
import Teller.Proofs.Sums

/-!
# Double entry

Every committed transfer has posted what it took from one account and brought to the other. So each
balance is what its account was opened with and what has been posted to it since, and what is posted
in all is nothing:

    transfers   0: a → b, 5           1: b → b, 7           …
    entries     0: a −5   1: b +5     2: b −7   3: b +7     …
-/

namespace Teller.Ledger

/-- What a movement adds to an account: what leaves it and what enters it. -/
theorem toInt_delta {m : Movement} (amount : m.amount ≠ Int64.minValue) (id : Id) :
    (m.delta id).toInt =
      (if m.source = id then -m.amount.toInt else 0) +
        (if m.target = id then m.amount.toInt else 0) := by
  have neg := Amount.toInt_neg amount
  by_cases same : m.source = m.target
  · rw [Movement.delta_self same, same]
    split
    · exact (Int.add_left_neg _).symm
    · rfl
  · rw [Movement.delta, if_neg same]
    by_cases hs : id = m.source
    · rw [if_pos hs, if_pos hs.symm, if_neg fun h => same (hs.symm.trans h.symm), neg, Int.add_zero]
    · rw [if_neg hs, if_neg (Ne.symm hs), Int.zero_add]
      by_cases ht : id = m.target
      · rw [if_pos ht, if_pos ht.symm]
      · rw [if_neg ht, if_neg (Ne.symm ht)]
        rfl

/-! ### Books that balance -/

/-- The movement that a transfer records. -/
def Transfer.movement (t : Transfer) : Movement := ⟨t.source, t.target, t.amount⟩

/-- What the entries have posted to an account. -/
def Books.posted (books : Books) (id : Id) : Int :=
  ((books.entries.filter fun e => e.account = id).map fun e => e.amount.toInt).sum

/-- An entry as a line of a book. -/
def Books.line (e : Entry) : Id × Int := (e.account, e.amount.toInt)

/-- What a transfer posts to its source and to its target. -/
def Books.lines (t : Transfer) : List (Id × Int) :=
  [(t.source, -t.amount.toInt), (t.target, t.amount.toInt)]

/-- The accounts are numbered from one on and were opened with these balances, the entries are those
of the transfers, and the balances are what the entries make of them. -/
structure Balanced (openings : List Int64) (books : Books) : Prop where
  opened : books.accounts.length = openings.length
  numbered : ∀ (k : Nat) a, books.accounts[k]? = some a → a.id = k + 1
  paired : books.entries.map Books.line = books.transfers.flatMap Books.lines
  known : ∀ e ∈ books.entries, (books.account? e.account).isSome
  balances : ∀ (k : Nat) a o, books.accounts[k]? = some a → openings[k]? = some o →
    a.balance.toInt = o.toInt + books.posted a.id
  total : (books.accounts.map fun a => a.balance.toInt).sum = (openings.map Int64.toInt).sum

namespace Balanced

variable {openings : List Int64} {books : Books}

theorem empty : Balanced [] .empty where
  opened := rfl
  numbered _ _ h := by cases h
  paired := rfl
  known _ h := absurd h List.not_mem_nil
  balances _ _ _ h := by cases h
  total := rfl

theorem tally (hb : Balanced openings books) : books.Tally openings books.posted :=
  ⟨hb.opened, hb.numbered, hb.balances⟩

theorem mem_ids {id : Id} (h : (books.account? id).isSome) : id ∈ books.accounts.map Account.id := by
  obtain ⟨a, ha⟩ := Option.isSome_iff_exists.1 h
  exact List.mem_map.2 ⟨a, List.mem_of_find?_eq_some ha, Books.id_of_account? ha⟩

/-! ### What keeps the books in balance -/

/-- To an account without entries nothing is posted. -/
theorem posted_eq_zero {id : Id} (h : ∀ e ∈ books.entries, e.account ≠ id) :
    books.posted id = 0 := by
  have none : books.entries.filter (fun e => e.account = id) = [] := by
    rw [List.filter_eq_nil_iff]
    exact fun e he => by simpa using h e he
  rw [Books.posted, none]
  rfl

/-- A new account gets a number to which nothing has been posted. -/
theorem insertAccount {mem : Memory} (hb : Balanced openings mem.books) (owner currency : String)
    (balance : Int64) :
    Balanced (openings ++ [balance]) (mem.insertAccount owner currency balance).books := by
  have fresh : mem.books.posted (mem.books.accounts.length + 1) = 0 :=
    posted_eq_zero fun e he => Books.Numbered.ne_next hb.numbered (hb.known e he)
  have tally := hb.tally.insertAccount fresh owner currency balance
  exact {
    opened := tally.opened
    numbered := tally.numbered
    paired := hb.paired
    known := fun e he => by
      rw [Memory.account?_insertAccount (hb.known e he)]
      exact hb.known e he
    balances := tally.balances
    total := by
      change ((_ ++ [_]).map _).sum = _
      rw [List.map_append, List.sum_append, List.map_append, List.sum_append, hb.total]
      rfl }

section Commit

variable {mem : Memory} {m : Movement} {d : Draft} {r : Receipt}

/-- A commit posts to each account what the movement changes there. -/
theorem posted_commit (settles : Settles mem m d r) (amount : m.amount ≠ Int64.minValue) (id : Id) :
    (mem.commit d).books.posted id = mem.books.posted id + (m.delta id).toInt := by
  have neg := Amount.toInt_neg amount
  change (((mem.books.entries ++ d.entries).filter _).map _).sum = _
  rw [settles.entries, List.filter_append, List.map_append, List.sum_append, toInt_delta amount]
  refine congrArg (Books.posted mem.books id + ·) ?_
  rw [← neg, ← settles.debit.2, ← settles.debit.1, ← settles.credit.1, ← settles.credit.2]
  by_cases hs : r.debit.account = id <;> by_cases ht : r.credit.account = id <;>
    simp [hs, ht]

/-- The balances take what a transfer brings to them, and no sum leaves its range. -/
theorem toInt_balance (lawful : d.Lawful mem) (settles : Settles mem m d r) {a : Account}
    (ha : mem.books.account? a.id = some a) :
    (a.balance + d.deltas a.id).toInt = a.balance.toInt + (m.delta a.id).toInt := by
  rw [Amount.toInt_add (lawful.add?_isSome ha), settles.deltas]

/-- What a movement brings to all accounts is nothing, if both of its accounts are there. -/
theorem sum_delta (amount : m.amount ≠ Int64.minValue) {accounts : List Account}
    (nodup : (accounts.map Account.id).Nodup) (source : m.source ∈ accounts.map Account.id)
    (target : m.target ∈ accounts.map Account.id) :
    (accounts.map fun a => (m.delta a.id).toInt).sum = 0 := by
  have sides : (fun a : Account => (m.delta a.id).toInt) = _ :=
    funext fun a => toInt_delta amount a.id
  rw [sides, List.sum_map_add, sum_ite_of_mem nodup source, sum_ite_of_mem nodup target]
  omega

theorem lines_settled (settles : Settles mem m d r) (amount : m.amount ≠ Int64.minValue) :
    [r.debit, r.credit].map Books.line = Books.lines r.transfer := by
  have movement := settles.movement
  subst movement
  obtain ⟨debit, taken⟩ := settles.debit
  obtain ⟨credit, brought⟩ := settles.credit
  rw [List.map_cons, List.map_singleton, Books.line, Books.line, debit, taken, credit, brought,
    Amount.toInt_neg amount]
  rfl

theorem known_settled (settles : Settles mem m d r) :
    ∀ e ∈ d.entries, (mem.books.account? e.account).isSome := by
  obtain ⟨a, _, ha, -, -⟩ := moved?_cases settles.source
  obtain ⟨b, _, hb, -, -⟩ := moved?_cases settles.target
  intro e he
  rw [settles.entries, List.mem_cons, List.mem_singleton] at he
  rcases he with rfl | rfl
  · rw [settles.debit.1, ha]; rfl
  · rw [settles.credit.1, hb]; rfl

/-- A transfer that commits keeps the books in balance. -/
theorem commit (hb : Balanced openings mem.books) (lawful : d.Lawful mem)
    (settles : Settles mem m d r) (amount : m.amount ≠ Int64.minValue) :
    Balanced openings (mem.commit d).books := by
  have tally := hb.tally.commit lawful fun id => settles.deltas ▸ posted_commit settles amount id
  exact {
    opened := tally.opened
    numbered := tally.numbered
    paired := by
      change (mem.books.entries ++ d.entries).map _ = (mem.books.transfers ++ d.transfers).flatMap _
      rw [List.map_append, List.flatMap_append, hb.paired, settles.entries, settles.transfers,
        lines_settled settles amount, List.flatMap_singleton]
    known := fun e he => by
      rw [Memory.account?_commit, Option.isSome_map]
      exact (List.mem_append.1 he).elim (hb.known e) (known_settled settles e)
    balances := tally.balances
    total := by
      have moved : ∀ a ∈ mem.books.accounts, (a.balance + d.deltas a.id).toInt =
          a.balance.toInt + (m.delta a.id).toInt := by
        intro a ha
        obtain ⟨k, hk⟩ := List.mem_iff_getElem?.1 ha
        exact toInt_balance lawful settles (hb.tally.numbered.account?_of_getElem? hk)
      obtain ⟨a, _, ha, -, -⟩ := moved?_cases settles.source
      obtain ⟨b, _, hb', -, -⟩ := moved?_cases settles.target
      have nothing := sum_delta amount hb.tally.numbered.nodup
        (mem_ids (Option.isSome_iff_exists.2 ⟨a, ha⟩))
        (mem_ids (Option.isSome_iff_exists.2 ⟨b, hb'⟩))
      have after : ((mem.commit d).books.accounts.map fun a => a.balance.toInt) =
          mem.books.accounts.map fun a => a.balance.toInt + (m.delta a.id).toInt :=
        List.map_map.trans (List.map_congr_left moved)
      rw [after, List.sum_map_add, hb.total, nothing, Int.add_zero] }

end Commit

end Balanced

/-! ### Runs -/

theorem Balanced.of_books_eq {opened : List Int64} {books books' : Books} (h : books' = books)
    (hb : Balanced opened books) : Balanced opened books' := h ▸ hb

/-- What is opened and committed in a run leaves the books in balance. -/
theorem Balanced.run {calls : List Movement} (amounts : ∀ m ∈ calls, m.amount ≠ Int64.minValue)
    {es : List (Event Receipt)} (closed : ∀ e ∈ es, e.isSpawn = false) {s s' : State Receipt}
    (hs : Underway calls s) {opened : List Int64} (hb : Balanced opened s.memory.books)
    (h : s.run? es = some s') : Balanced (opened ++ openings es) s'.memory.books := by
  induction es generalizing s opened with
  | nil =>
    cases h
    exact (List.append_nil opened).symm ▸ hb
  | cons e es ih =>
    obtain ⟨mid, hmid, hrest⟩ := Option.bind_eq_some_iff.1 h
    have closed' := fun e' he' => closed e' (List.mem_cons_of_mem e he')
    have hmid' := hs.step (closed e List.mem_cons_self) hmid
    cases State.effect hmid with
    | @commit i d r before event =>
      obtain ⟨m, hm, settles⟩ := hs.settles before
      have lawful : d.Lawful s.memory := hs.disciplined.lawful i _ before
      have amount := amounts m (List.mem_of_getElem? hm)
      have same : openings (e :: es) = openings es := by
        cases e <;> first | rfl | cases event
      exact same ▸ ih closed' hmid' (hb.commit lawful settles amount) hrest
    | opening event =>
      subst event
      have rest := ih closed' hmid' (hb.insertAccount _ _ _) hrest
      rwa [List.append_assoc] at rest
    | quiet books _ _ noOpening =>
      have same : openings (e :: es) = openings es := by
        cases e <;> first | rfl | exact absurd rfl (noOpening _ _ _)
      exact same ▸ ih closed' hmid' (.of_books_eq books hb) hrest

/-- What a run records is what the calls that commit in it were made with, in the order of their
commits. -/
theorem movements_of_commits {calls : List Movement} {es : List (Event Receipt)}
    (closed : ∀ e ∈ es, e.isSpawn = false) {s s' : State Receipt} (hs : Underway calls s)
    (h : s.run? es = some s') :
    s'.memory.books.transfers.map Transfer.movement =
      s.memory.books.transfers.map Transfer.movement ++
        (s.commitOrder es).filterMap fun i => calls[i]? := by
  induction es generalizing s with
  | nil =>
    cases h
    exact (List.append_nil _).symm
  | cons e es ih =>
    obtain ⟨mid, hmid, hrest⟩ := Option.bind_eq_some_iff.1 h
    have closed' := fun e' he' => closed e' (List.mem_cons_of_mem e he')
    have hmid' := hs.step (closed e List.mem_cons_self) hmid
    rw [ih closed' hmid' hrest, State.commitOrder_cons hmid]
    cases State.effect hmid with
    | @commit i d r before event =>
      obtain ⟨m, hm, settles⟩ := hs.settles before
      have recorded : d.transfers.map Transfer.movement = [m] := by
        rw [settles.transfers]
        exact congrArg ([·]) settles.movement
      change (s.memory.books.transfers ++ d.transfers).map _ ++ _ = _
      rw [event, List.map_append, recorded, List.append_assoc, Option.toList_some,
        List.filterMap_append, List.filterMap_cons_some hm, List.filterMap_nil]
    | opening event =>
      subst event
      rfl
    | quiet books _ event =>
      rw [books, event]
      rfl

/-- Entries that come in pairs of opposite amounts come to nothing. -/
theorem sum_paired {entries : List Entry} {transfers : List Transfer}
    (paired : entries.map Books.line = transfers.flatMap Books.lines) :
    (entries.map fun e => e.amount.toInt).sum = 0 := by
  have amounts : (entries.map fun e => e.amount.toInt) = (entries.map Books.line).map Prod.snd :=
    List.map_map.symm ▸ rfl
  rw [amounts, paired]
  clear amounts paired
  induction transfers with
  | nil => rfl
  | cons t transfers ih =>
    rw [List.flatMap_cons, List.map_append, List.sum_append, ih, Int.add_zero]
    exact (congrArg (-t.amount.toInt + ·) (Int.add_zero _)).trans (Int.add_left_neg _)

theorem length_flatMap_lines (transfers : List Transfer) :
    (transfers.flatMap Books.lines).length = 2 * transfers.length := by
  induction transfers with
  | nil => rfl
  | cons t transfers ih =>
    rw [List.flatMap_cons, List.length_append, ih, List.length_cons, Books.lines]
    simp only [List.length_cons, List.length_nil]
    omega

/-- The lines of a transfer stand in the book at twice its place. -/
theorem getElem?_flatMap_lines {transfers : List Transfer} {k : Nat} {t : Transfer}
    (h : transfers[k]? = some t) :
    (transfers.flatMap Books.lines)[2 * k]? = some (t.source, -t.amount.toInt) ∧
      (transfers.flatMap Books.lines)[2 * k + 1]? = some (t.target, t.amount.toInt) := by
  induction transfers generalizing k with
  | nil => cases h
  | cons first transfers ih =>
    cases k with
    | zero => cases h; exact ⟨rfl, rfl⟩
    | succ k => exact ih h

/-- In whatever state accounts being opened and transfers running side by side have brought the
books: each balance is the opening balance of its account and what is posted to it; the transfers are
those of the calls that have committed; entries number 2k and 2k + 1 are those of transfer number k,
and there are no others; all entries come to nothing, and all balances to what was opened. -/
theorem double_entry (clock : Timestamp) (calls : List Movement) (es : List (Event Receipt))
    (s : State Receipt) (amounts : ∀ m ∈ calls, m.amount ≠ Int64.minValue)
    (closed : ∀ e ∈ es, e.isSpawn = false)
    (h : (State.ofCalls (.empty clock) calls).run? es = some s) :
    let books := s.memory.books
    (books.accounts.length = (openings es).length ∧
      ∀ (k : Nat) a, books.accounts[k]? = some a → a.id = k + 1 ∧
        ∃ o, (openings es)[k]? = some o ∧ a.balance.toInt = o.toInt + books.posted a.id) ∧
    (books.transfers.map Transfer.movement =
        ((State.ofCalls (.empty clock) calls).commitOrder es).filterMap (calls[·]?) ∧
      books.entries.length = 2 * books.transfers.length ∧
      ∀ (k : Nat) t, books.transfers[k]? = some t → ∃ debit credit,
        books.entries[2 * k]? = some debit ∧ books.entries[2 * k + 1]? = some credit ∧
        (debit.account = t.source ∧ debit.amount.toInt = -t.amount.toInt) ∧
        (credit.account = t.target ∧ credit.amount.toInt = t.amount.toInt)) ∧
    (books.entries.map fun e => e.amount.toInt).sum = 0 ∧
    (books.accounts.map fun a => a.balance.toInt).sum = ((openings es).map Int64.toInt).sum := by
  intro books
  have balanced : Balanced (openings es) books :=
    Balanced.empty.run amounts closed (Underway.ofCalls _ calls) h
  refine ⟨⟨balanced.opened, fun k a ha => ⟨balanced.numbered k a ha, ?_⟩⟩,
    ⟨movements_of_commits closed (Underway.ofCalls _ calls) h, ?_, fun k t ht => ?_⟩,
    sum_paired balanced.paired, balanced.total⟩
  · have lt := balanced.opened ▸ (List.getElem?_eq_some_iff.1 ha).1
    have ho := List.getElem?_eq_getElem lt
    exact ⟨_, ho, balanced.balances k a _ ha ho⟩
  · have length := congrArg List.length balanced.paired
    rwa [List.length_map, length_flatMap_lines] at length
  · have pair := getElem?_flatMap_lines ht
    -- Entries and transfers agree as lists, so the lines of a transfer are the entries there.
    rw [← balanced.paired, List.getElem?_map, List.getElem?_map, Option.map_eq_some_iff,
      Option.map_eq_some_iff] at pair
    obtain ⟨⟨debit, hdebit, taken⟩, credit, hcredit, brought⟩ := pair
    exact ⟨debit, credit, hdebit, hcredit, Prod.ext_iff.1 taken, Prod.ext_iff.1 brought⟩

/-- Two accounts are opened, the first pays the second, and the second pays itself meanwhile. -/
def paying : List (Event Receipt) :=
  [.insertAccount "ada" "USD" 100, .insertAccount "bob" "USD" 50] ++
    List.replicate 6 (.advance 0) ++ List.replicate 8 (.advance 1) ++ List.replicate 5 (.advance 0)

theorem double_entry_paying : ∃ s,
    (State.ofCalls (.holding []) [⟨1, 2, 30⟩, ⟨2, 2, 7⟩]).run? paying = some s ∧
    s.memory.books.transfers.map Transfer.movement = [⟨2, 2, 7⟩, ⟨1, 2, 30⟩] ∧
    s.memory.books.entries.length = 2 * s.memory.books.transfers.length ∧
    (s.memory.books.entries.map fun e => e.amount.toInt).sum = 0 ∧
    (s.memory.books.accounts.map fun a => a.balance.toInt).sum = 150 := by
  have goes : ((State.ofCalls (.holding []) [⟨1, 2, 30⟩, ⟨2, 2, 7⟩]).run? paying).isSome = true := by
    decide
  obtain ⟨s, hs⟩ := Option.isSome_iff_exists.1 goes
  obtain ⟨-, ⟨made, pairs, -⟩, nothing, total⟩ :=
    double_entry _ [⟨1, 2, 30⟩, ⟨2, 2, 7⟩] paying s (by decide) (by decide) hs
  have order : (State.ofCalls (.holding []) [⟨1, 2, 30⟩, ⟨2, 2, 7⟩]).commitOrder paying = [1, 0] := by
    decide
  refine ⟨s, hs, made.trans ?_, pairs, nothing, total⟩
  exact congrArg (List.filterMap _) order

end Teller.Ledger
