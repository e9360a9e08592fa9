import Teller.Proofs.Amount
import Teller.Proofs.Ledger.Transaction
import Teller.World

/-!
# The protocol of a transfer

What a transfer sends is known beforehand, but for how far it comes: the three insertions, then the
additions to the balances in the order of the accounts.

    BEGIN
      INSERT transfers   source, target, n
      INSERT entries     source, −n
      INSERT entries     target, n
      UPDATE accounts    −n to the source and n to the target, the lower account first;
                         or 0, once, if they are the same
    COMMIT
-/

namespace Teller.Ledger

open Store Interaction

namespace Movement

/-- What a transfer adds to the balance of one of its accounts. -/
def change (m : Movement) (id : Id) : Int :=
  if m.source = m.target then 0 else if id = m.source then -m.amount.toInt else m.amount.toInt

/-- The arguments of the addition to a balance. -/
def addition (m : Movement) (id : Id) : List Value := [.integer (m.change id), .integer id]

/-- The accounts whose balances are added to, in order. -/
def touched (m : Movement) : List Id :=
  if m.source = m.target then [m.source] else [min m.source m.target, max m.source m.target]

/-- The statements that record the transfer and its entries. -/
def insertions (m : Movement) : List Request := [
  .query .insertTransfer [.integer m.source, .integer m.target, .integer m.amount.toInt],
  .query .insertEntry [.integer m.source, .integer (-m.amount.toInt)],
  .query .insertEntry [.integer m.target, .integer m.amount.toInt]]

/-- The statements that change the balances. -/
def updates (m : Movement) : List Request :=
  m.touched.map fun id => .query .addBalance (m.addition id)

/-- All statements of the transfer, in their order. -/
def writes (m : Movement) : List Request := m.insertions ++ m.updates

/-- All that a transfer sends if nothing fails. -/
def protocol (m : Movement) : List Request := .start :: (m.writes ++ [.commit])

variable {m : Movement}

theorem change_same (same : m.source = m.target) (id : Id) : m.change id = 0 := if_pos same

theorem change_source (ne : m.source ≠ m.target) : m.change m.source = -m.amount.toInt := by
  rw [change, if_neg ne, if_pos rfl]

theorem change_target (ne : m.source ≠ m.target) : m.change m.target = m.amount.toInt := by
  rw [change, if_neg ne, if_neg (Ne.symm ne)]

/-- An addition to a balance is of what the transfer adds to that account. -/
theorem change_of_mem_protocol {delta : Int} {id : Id}
    (h : .query .addBalance [.integer delta, .integer id] ∈ m.protocol) : delta = m.change id := by
  simp only [protocol, writes, insertions, updates, addition, List.mem_cons, List.mem_append,
    List.mem_map, List.not_mem_nil, or_false] at h
  rcases h with h | ((h | h | h) | ⟨id', -, h⟩) | h
  · cases h
  · cases h
  · cases h
  · cases h
  · cases h
    rfl
  · cases h

/-- Only the source loses anything, and just the amount. -/
theorem source_of_negative {delta : Int} {id : Id} (positive : 0 < m.amount.toInt)
    (h : .query .addBalance [.integer delta, .integer id] ∈ m.protocol) (negative : delta < 0) :
    id = m.source ∧ delta = -m.amount.toInt := by
  have changed := change_of_mem_protocol h
  unfold change at changed
  split at changed
  · omega
  · split at changed
    · next source => exact ⟨source, changed⟩
    · omega

/-- Every write is a statement. -/
theorem query_of_mem_writes {request : Request} (h : request ∈ m.writes) :
    ∃ s arguments, request = .query s arguments := by
  rcases List.mem_append.1 h with h | h
  · simp only [insertions, List.mem_cons, List.not_mem_nil, or_false] at h
    rcases h with rfl | rfl | rfl <;> exact ⟨_, _, rfl⟩
  · obtain ⟨id, -, rfl⟩ := List.mem_map.1 h
    exact ⟨_, _, rfl⟩

theorem commit_not_mem (m : Movement) : .commit ∉ .start :: m.writes := by
  intro h
  rcases List.mem_cons.1 h with h | h
  · cases h
  · obtain ⟨s, arguments, h⟩ := query_of_mem_writes h
    cases h

theorem rollback_not_mem_protocol (m : Movement) : .rollback ∉ m.protocol := by
  intro h
  rw [protocol, List.mem_cons, List.mem_append, List.mem_singleton] at h
  rcases h with h | h | h
  · cases h
  · obtain ⟨s, arguments, h⟩ := query_of_mem_writes h
    cases h
  · cases h

theorem filter_protocol (m : Movement) : m.protocol.filter (· ≠ .rollback) = m.protocol := by
  rw [List.filter_eq_self]
  intro request h
  exact decide_eq_true fun undo => m.rollback_not_mem_protocol (undo ▸ h)

theorem start_writes_prefix_protocol (m : Movement) : .start :: m.writes <+: m.protocol :=
  List.prefix_append _ [Request.commit]

end Movement

variable {m : Movement}

theorem sends_addition {id : Id} {n : Int64} (h : m.change id = n.toInt) :
    (stored.perform (Work.add id n)).Sends [.query .addBalance (m.addition id)] fun log row =>
      ∃ e, log = [e] ∧ e.Tells .addBalance (m.addition id) Account.ofCells row := by
  have arguments : m.addition id = [.ofAmount n, .integer id] := by
    rw [Movement.addition, h]
    rfl
  rw [arguments]
  exact sends_add id n

/-- The additions to the balances were answered with these accounts, the source first. -/
def TellsBalances (m : Movement) (log : List Exchange) (accounts : Account × Account) : Prop :=
  (∃ e ∈ log, e.Tells .addBalance (m.addition m.source) Account.ofCells accounts.1) ∧
    ∃ e ∈ log, e.Tells .addBalance (m.addition m.target) Account.ofCells accounts.2

/-- Two additions, one after the other, of what the transfer adds to their accounts. -/
theorem sends_additions {first second : Id} {n k : Int64} (hn : m.change first = n.toInt)
    (hk : m.change second = k.toInt) (pair : Account → Account → Account × Account)
    (tells : ∀ log a b,
      (∃ e ∈ log, e.Tells .addBalance (m.addition first) Account.ofCells a) →
      (∃ e ∈ log, e.Tells .addBalance (m.addition second) Account.ofCells b) →
      TellsBalances m log (pair a b)) :
    (stored.perform (do
      let a ← Work.add first n
      let b ← Work.add second k
      return pair a b)).Sends
      ([first, second].map fun id => .query .addBalance (m.addition id)) (TellsBalances m) := by
  refine sends_bind [_] (sends_addition hn) fun log a told => ?_
  obtain ⟨e, rfl, told⟩ := told
  refine sends_bind [] (sends_addition hk) fun log b told' => ?_
  obtain ⟨e', rfl, told'⟩ := told'
  refine (sends_return (pair a b)).mono ?_
  rintro log c ⟨rfl, rfl⟩
  exact tells _ a b ⟨e, by simp, told⟩ ⟨e', by simp, told'⟩

/-- The balances are changed by one statement for each account that is touched. -/
theorem sends_moveBalances (small : m.amount ≠ Int64.minValue) :
    (stored.perform (Work.moveBalances m)).Sends m.updates (TellsBalances m) := by
  unfold Work.moveBalances Movement.updates Movement.touched
  split
  · next same =>
    have adds : m.change m.source = (0 : Int64).toInt := Movement.change_same same m.source
    refine sends_bind [] (sends_addition adds) fun log a told => ?_
    obtain ⟨e, rfl, told⟩ := told
    refine (sends_return (a, a)).mono ?_
    rintro log b ⟨rfl, rfl⟩
    refine ⟨⟨e, by simp, told⟩, ⟨e, by simp, ?_⟩⟩
    rw [← same]
    exact told
  · next ne =>
    have source : m.change m.source = (-m.amount).toInt := by
      rw [Movement.change_source ne, Amount.toInt_neg small]
    have target : m.change m.target = m.amount.toInt := Movement.change_target ne
    split
    · next lt =>
      rw [Int.min_eq_left (Int.le_of_lt lt), Int.max_eq_right (Int.le_of_lt lt)]
      exact sends_additions source target Prod.mk fun _ _ _ told told' => ⟨told, told'⟩
    · next ge =>
      have le : m.target ≤ m.source := Int.not_lt.1 ge
      rw [Int.min_eq_right le, Int.max_eq_left le]
      exact sends_additions target source (fun b a => (a, b)) fun _ _ _ told told' => ⟨told', told⟩

/-- All writes were answered, each with the part of the receipt that it is about. -/
def TellsReceipt (m : Movement) (log : List Exchange) (receipt : Receipt) : Prop :=
  ∃ t d c updates, log = t :: d :: c :: updates ∧
    t.Tells .insertTransfer [.integer m.source, .integer m.target, .integer m.amount.toInt]
      Transfer.ofCells receipt.transfer ∧
    d.Tells .insertEntry [.integer m.source, .integer (-m.amount.toInt)] Entry.ofCells
      receipt.debit ∧
    c.Tells .insertEntry [.integer m.target, .integer m.amount.toInt] Entry.ofCells
      receipt.credit ∧
    TellsBalances m updates (receipt.source, receipt.target)

/-- A transfer sends its insertions, then its updates, and tells the rows it was answered with. -/
theorem sends_transfer (small : m.amount ≠ Int64.minValue) :
    (stored.perform (Work.transfer m)).Sends m.writes (TellsReceipt m) := by
  have negative : Value.ofAmount (-m.amount) = .integer (-m.amount.toInt) :=
    congrArg Value.integer (Amount.toInt_neg small)
  have debits := sends_recordEntry m.source (-m.amount)
  rw [negative] at debits
  refine sends_bind ([_, _] ++ m.updates) (sends_recordTransfer m) fun log t told => ?_
  obtain ⟨first, rfl, hfirst⟩ := told
  refine sends_bind ([_] ++ m.updates) debits fun log d told => ?_
  obtain ⟨second, rfl, hsecond⟩ := told
  refine sends_bind m.updates (sends_recordEntry m.target m.amount) fun log c told => ?_
  obtain ⟨third, rfl, hthird⟩ := told
  have all : m.updates = m.updates ++ [] := (List.append_nil _).symm
  rw [all]
  refine sends_bind [] (sends_moveBalances small) fun log accounts told => ?_
  refine (sends_return _).mono ?_
  rintro _ _ ⟨rfl, rfl⟩
  refine ⟨first, second, third, log, by simp, hfirst, hsecond, hthird, told⟩

/-- A transfer sends nothing but what its protocol says, and maybe a rollback. -/
theorem mem_protocol_of_goes (small : m.amount ≠ Int64.minValue) {log : List Exchange}
    {ending : Option (Except Store.Error Receipt)} (goes : (storedTransfer m).Goes log ending) :
    ∀ request ∈ requests log, request = .rollback ∨ request ∈ m.protocol := by
  intro request h
  cases transacts (sends_transfer small) goes with
  | onward follows => exact .inr (follows.requests_prefix.subset h)
  | undone follows reply =>
    rw [requests_append, List.mem_append] at h
    rcases h with h | h
    · exact .inr ((follows.requests_prefix.trans m.start_writes_prefix_protocol).subset h)
    · exact .inl (List.mem_singleton.1 h)

/-- A transfer that stalls waits for the reply to its last request, and has sent no commit before
it. -/
theorem unanswered_of_stalled (small : m.amount ≠ Int64.minValue) {log : List Exchange}
    (goes : (storedTransfer m).Goes log none) :
    ∃ before request, log = before ++ [.sent request none] ∧ .commit ∉ requests before := by
  have new := m.commit_not_mem
  generalize stalled : (none : Option (Except Store.Error Receipt)) = ending at goes
  cases transacts (sends_transfer small) goes with
  | onward follows =>
    subst stalled
    obtain ⟨before, request, rfl⟩ := follows.unanswered_last rfl
    refine ⟨before, request, rfl, fun sent => new ?_⟩
    -- The last request may be the commit, but those before it are writes.
    have part := follows.requests_prefix
    rw [requests_append, ← List.cons_append, requests_sent, requests_nil] at part
    rcases List.prefix_concat_iff.1 part with all | part
    · exact (List.append_inj' all rfl).1 ▸ sent
    · exact part.subset (List.mem_append_left _ sent)
  | @undone log _ follows reply _ silent =>
    rw [silent stalled.symm]
    exact ⟨log, .rollback, rfl, fun sent => new (follows.requests_prefix.subset sent)⟩

/-! ### Before a rollback -/

section

variable {log : List Exchange} {reply : Option Reply}

theorem filter_requests_undone :
    (requests (log ++ [.sent .rollback reply])).filter (· ≠ .rollback) =
      (requests log).filter (· ≠ .rollback) := by
  have undo : [Request.rollback].filter (· ≠ .rollback) = [] := rfl
  rw [requests_append, List.filter_append, requests_sent, requests_nil, undo, List.append_nil]

/-- Whatever is not the rollback was sent before it. -/
theorem exists_of_undone_eq {before after : List Exchange} {e : Exchange}
    (split : log ++ [.sent .rollback reply] = before ++ e :: after)
    (other : e.request? ≠ some .rollback) : ∃ rest, log = before ++ e :: rest := by
  rcases List.eq_nil_or_concat after with rfl | ⟨rest, last, rfl⟩
  · obtain ⟨-, same⟩ := List.append_inj' split rfl
    rw [List.singleton_inj] at same
    exact absurd (same ▸ rfl) other
  · rw [List.concat_eq_append, ← List.cons_append, ← List.append_assoc] at split
    exact ⟨rest, (List.append_inj' split rfl).1⟩

/-- No commit is met where none is sent. -/
theorem not_commit_met_of_not_mem (never : .commit ∉ requests log) :
    ¬∃ e ∈ log, e.request? = some .commit ∧ e.isMet := by
  rintro ⟨e, he, h, -⟩
  exact never (List.mem_filterMap.2 ⟨e, he, h⟩)

end

/-- Whatever the database replies, and wherever it falls silent: a transfer sends a part of its
protocol from the start on, and maybe a rollback after it. A request is sent only if all before it
were met, and nothing but a request that is not met keeps it from the end of the protocol; the
commit is sent just if all writes were met; the transfer succeeds just if the commit did, and then
its receipt says what the database answered to each write. -/
theorem transfer_follows_protocol (m : Movement) (small : m.amount ≠ Int64.minValue)
    (log : List Exchange) (ending : Option (Except Store.Error Receipt))
    (goes : (storedTransfer m).Goes log ending) :
    (requests log).filter (· ≠ .rollback) <+: m.protocol ∧
    (∀ before e after, log = before ++ e :: after → e.request? ≠ some .rollback →
      ∀ b ∈ before, b.isMet) ∧
    ((∀ e ∈ log, e.isMet) → requests log = m.protocol) ∧
    (.commit ∈ requests log ↔ .start :: m.writes <+: requests (log.takeWhile Exchange.isMet)) ∧
    ((∃ receipt, ending = some (.ok receipt)) ↔
      ∃ e ∈ log, e.request? = some .commit ∧ e.isMet) ∧
    ∀ receipt, ending = some (.ok receipt) →
      ∃ b writes e, log = b :: (writes ++ [e]) ∧ TellsReceipt m writes receipt := by
  have new := m.commit_not_mem
  cases transacts (sends_transfer small) goes with
  | onward follows done =>
    have follows' : Follows ((.start :: m.writes) ++ [.commit]) log (ending.map Except.isOk) :=
      follows
    refine ⟨?_, fun before e after split _ => follows.isMet_before split,
      fun all => (follows.completed_of_isMet all).2, follows'.last_sent_iff new, ?_, done⟩
    · rw [← m.filter_protocol]
      exact follows.requests_prefix.filter _
    · rw [← follows'.completed_iff_last_met new]
      rcases ending with _ | _ | receipt <;> simp [Except.isOk, Except.toBool]
  | @undone log _ follows reply failed =>
    have part := follows.requests_prefix
    have never : .commit ∉ requests (log ++ [.sent .rollback reply]) := by
      simpa using fun sent => new (part.subset sent)
    refine ⟨?_, fun before e after split other => ?_, fun all => ?_, ?_,
      ⟨fun ⟨receipt, h⟩ => absurd h (failed receipt),
        fun met => absurd met (not_commit_met_of_not_mem never)⟩,
      fun receipt h => absurd h (failed _)⟩
    · rw [filter_requests_undone, ← m.filter_protocol]
      exact (part.trans m.start_writes_prefix_protocol).filter _
    · obtain ⟨rest, sent⟩ := exists_of_undone_eq split other
      exact follows.isMet_before sent
    · have completed := (follows.completed_of_isMet fun e he =>
        all e (List.mem_append_left _ he)).1
      cases completed
    · rw [follows.takeWhile_append nofun, ← follows.completed_iff]
      exact iff_of_false never nofun

/-- The rows that answer a transfer of 30 from account 2 to account 1. -/
def downward : World Script := .scripted [
  some (.rows [[.integer 7, .integer 2, .integer 1, .integer 30, .instant .epoch]]),
  some (.rows [[.integer 8, .integer 2, .integer (-30), .instant .epoch]]),
  some (.rows [[.integer 9, .integer 1, .integer 30, .instant .epoch]]),
  some (.rows [[.integer 1, .text "ada", .text "USD", .integer 130, .instant .epoch]]),
  some (.rows [[.integer 2, .text "bob", .text "USD", .integer 20, .instant .epoch]])] []

/-- The lower account is added to first, and is the target of the receipt nevertheless. -/
theorem downward_follows_protocol :
    let m : Movement := ⟨2, 1, 30⟩
    m.amount ≠ Int64.minValue ∧ requests ((storedTransfer m).scriptLog downward) = m.protocol ∧
      ∃ receipt, (downward.rehearse (storedTransfer m)).1 = some (.ok receipt) ∧
        ∃ b writes e, (storedTransfer m).scriptLog downward = b :: (writes ++ [e]) ∧
          TellsReceipt m writes receipt := by
  intro m
  have small : m.amount ≠ Int64.minValue := by decide
  obtain ⟨-, -, -, -, succeeds, told⟩ := transfer_follows_protocol m small _ _
    (goes_rehearse (storedTransfer m) downward)
  have committed : ((storedTransfer m).scriptLog downward).any fun e =>
      e.request? = some .commit && e.isMet := by decide
  obtain ⟨e, he, met⟩ := List.any_eq_true.1 committed
  rw [Bool.and_eq_true, decide_eq_true_iff] at met
  obtain ⟨receipt, h⟩ := succeeds.2 ⟨e, he, met⟩
  exact ⟨small, by decide, receipt, h, told receipt h⟩

end Teller.Ledger
