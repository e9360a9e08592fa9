import Teller.Proofs.Ledger.Assurance

/-!
# What a transfer comes to

A transfer that commits has recorded itself and an entry for each side, and adds to the two balances
what leaves one account and enters the other: nothing, if they are the same account.
-/

namespace Teller.Ledger

/-- What a movement adds to the balance of an account. -/
def Movement.delta (m : Movement) (id : Id) : Int64 :=
  if m.source = m.target then 0
  else if id = m.source then -m.amount
  else if id = m.target then m.amount
  else 0

/-- An account as it is after a movement, if it is there and its balance stays in range. -/
def Memory.moved? (mem : Memory) (m : Movement) (id : Id) : Option Account :=
  (mem.books.account? id).bind fun a =>
    (Amount.add? a.balance (m.delta id)).map fun balance => { a with balance := balance }

/-- The draft and the receipt of a transfer are those of the movement `m`, from the books in
`mem`. -/
structure Settles (mem : Memory) (m : Movement) (d : Draft) (r : Receipt) : Prop where
  transfers : d.transfers = [r.transfer]
  entries : d.entries = [r.debit, r.credit]
  deltas : d.deltas = m.delta
  movement : (⟨r.transfer.source, r.transfer.target, r.transfer.amount⟩ : Movement) = m
  debit : r.debit.account = m.source ∧ r.debit.amount = -m.amount
  credit : r.credit.account = m.target ∧ r.credit.amount = m.amount
  source : mem.moved? m m.source = some r.source
  target : mem.moved? m m.target = some r.target

/-! ### Additions from nothing -/

theorem add?_zero_left {n pending : Int64} (h : Amount.add? 0 n = some pending) : pending = n := by
  rw [Amount.add?_eq_some_iff] at h
  exact Int64.toInt_inj.1 (by simpa using h)

theorem moved?_eq_some {mem : Memory} {m : Movement} {id : Id} {a : Account} {n balance : Int64}
    (ha : mem.books.account? id = some a) (hn : m.delta id = n)
    (hb : Amount.add? a.balance n = some balance) :
    mem.moved? m id = some { a with balance := balance } := by
  rw [Memory.moved?, ha, Option.bind_some, hn, hb, Option.map_some]

theorem moved?_cases {mem : Memory} {m : Movement} {id : Id} {a' : Account}
    (h : mem.moved? m id = some a') : ∃ a balance, mem.books.account? id = some a ∧
      Amount.add? a.balance (m.delta id) = some balance ∧ a' = { a with balance := balance } := by
  obtain ⟨a, ha, h⟩ := Option.bind_eq_some_iff.1 h
  obtain ⟨balance, hb, rfl⟩ := Option.map_eq_some_iff.1 h
  exact ⟨a, balance, ha, hb, rfl⟩

namespace Movement

variable {m : Movement}

theorem delta_self (same : m.source = m.target) : m.delta = fun _ => 0 := by
  funext id
  exact if_pos same

theorem delta_source (ne : m.source ≠ m.target) : m.delta m.source = -m.amount := by
  rw [delta, if_neg ne, if_pos rfl]

theorem delta_target (ne : m.source ≠ m.target) : m.delta m.target = m.amount := by
  rw [delta, if_neg ne, if_neg (Ne.symm ne), if_pos rfl]

/-- Two additions in either order, each to an untouched balance, make up the movement. -/
theorem delta_of_two {id₁ id₂ : Id} {n₁ n₂ : Int64} (ne : m.source ≠ m.target)
    (h : (id₁ = m.source ∧ n₁ = -m.amount ∧ id₂ = m.target ∧ n₂ = m.amount) ∨
      (id₁ = m.target ∧ n₁ = m.amount ∧ id₂ = m.source ∧ n₂ = -m.amount)) :
    (fun i => if i = id₂ then n₂ else if i = id₁ then n₁ else 0) = m.delta := by
  funext i
  rw [delta, if_neg ne]
  rcases h with ⟨rfl, rfl, rfl, rfl⟩ | ⟨rfl, rfl, rfl, rfl⟩
  · by_cases hs : i = m.source
    · rw [if_neg (hs ▸ ne), if_pos hs, if_pos hs]
    · rw [if_neg hs, if_neg hs]
  · rfl

end Movement

/-- What an addition of `n` to an untouched balance makes of a draft. -/
structure Adds (id : Id) (n : Int64) (before after : Draft) : Prop where
  transfers : after.transfers = before.transfers
  entries : after.entries = before.entries
  deltas : after.deltas = fun i => if i = id then n else before.deltas i

theorem ensures_add_untouched {mem : Memory} {d : Draft} {id : Id} {n : Int64}
    {post : Draft → Account → Prop} (untouched : d.deltas id = 0)
    (h : ∀ d' a balance, Adds id n d d' → mem.books.account? id = some a →
      Amount.add? a.balance n = some balance → post d' { a with balance := balance }) :
    (Work.add id n).Ensures mem post d := by
  refine Work.ensures_add fun a pending balance ha hp hb => ?_
  rw [untouched] at hp
  obtain rfl := add?_zero_left hp
  refine h _ a balance ?_ ha hb
  unfold Draft.lock
  split <;> exact ⟨rfl, rfl, rfl⟩

/-- What the additions of a movement make of a draft that has touched no balance. -/
structure Moves (mem : Memory) (m : Movement) (before after : Draft) (pair : Account × Account) :
    Prop where
  transfers : after.transfers = before.transfers
  entries : after.entries = before.entries
  deltas : after.deltas = m.delta
  source : mem.moved? m m.source = some pair.1
  target : mem.moved? m m.target = some pair.2

namespace Moves

variable {mem : Memory} {m : Movement} {d d₁ d₂ : Draft} {a b : Account}

/-- One addition of nothing moves an account to itself. -/
theorem of_add (same : m.source = m.target) (untouched : d.deltas = fun _ => 0)
    (one : Adds m.source 0 d d₁) (moved : mem.moved? m m.source = some a) :
    Moves mem m d d₁ (a, a) := by
  refine ⟨one.transfers, one.entries, ?_, moved, same ▸ moved⟩
  rw [one.deltas, untouched, Movement.delta_self same]
  funext i
  exact ite_self 0

/-- Two additions, one for each side and in either order, make up a movement. -/
theorem of_adds {id₁ id₂ : Id} {n₁ n₂ : Int64} (ne : m.source ≠ m.target)
    (untouched : d.deltas = fun _ => 0) (one : Adds id₁ n₁ d d₁) (two : Adds id₂ n₂ d₁ d₂)
    (sides : (id₁ = m.source ∧ n₁ = -m.amount ∧ id₂ = m.target ∧ n₂ = m.amount) ∨
      (id₁ = m.target ∧ n₁ = m.amount ∧ id₂ = m.source ∧ n₂ = -m.amount))
    (source : mem.moved? m m.source = some a) (target : mem.moved? m m.target = some b) :
    Moves mem m d d₂ (a, b) := by
  refine ⟨two.transfers.trans one.transfers, two.entries.trans one.entries, ?_, source, target⟩
  rw [two.deltas, one.deltas, untouched, Movement.delta_of_two ne sides]

end Moves

theorem Adds.untouched {id₁ id₂ : Id} {n : Int64} {d d₁ : Draft} (one : Adds id₁ n d d₁)
    (untouched : d.deltas = fun _ => 0) (ne : id₂ ≠ id₁) : d₁.deltas id₂ = 0 := by
  rw [one.deltas, untouched]
  exact if_neg ne

theorem moveBalances_moves (mem : Memory) (m : Movement) {d : Draft}
    (untouched : d.deltas = fun _ => 0) :
    (Work.moveBalances m).Ensures mem (Moves mem m d) d := by
  have first {id : Id} : d.deltas id = 0 := congrFun untouched id
  unfold Work.moveBalances
  -- One addition of nothing if both sides are one account, else the lower account first.
  split
  · next same =>
    rw [Work.ensures_bind]
    refine ensures_add_untouched first fun d₁ a _ one ha hp => ?_
    have zero := congrFun (Movement.delta_self same) m.source
    exact .of_add same untouched one (moved?_eq_some ha zero hp)
  · next ne =>
    split
    · rw [Work.ensures_bind]
      refine ensures_add_untouched first fun d₁ a _ one ha hp => ?_
      rw [Work.ensures_bind]
      refine ensures_add_untouched (one.untouched untouched (Ne.symm ne)) fun d₂ b _ two hb hq => ?_
      exact .of_adds ne untouched one two (.inl ⟨rfl, rfl, rfl, rfl⟩)
        (moved?_eq_some ha (Movement.delta_source ne) hp)
        (moved?_eq_some hb (Movement.delta_target ne) hq)
    · rw [Work.ensures_bind]
      refine ensures_add_untouched first fun d₁ b _ one hb hq => ?_
      rw [Work.ensures_bind]
      refine ensures_add_untouched (one.untouched untouched ne) fun d₂ a _ two ha hp => ?_
      exact .of_adds ne untouched one two (.inr ⟨rfl, rfl, rfl, rfl⟩)
        (moved?_eq_some ha (Movement.delta_source ne) hp)
        (moved?_eq_some hb (Movement.delta_target ne) hq)

/-- A transfer that commits settles its movement. -/
theorem transfer_settles (mem : Memory) (m : Movement) :
    (Work.transfer m).Ensures mem (Settles mem m) .empty := by
  rw [Work.transfer, Work.ensures_bind, Work.ensures_recordTransfer]
  intro now
  rw [Work.ensures_bind, Work.ensures_recordEntry]
  intro now'
  rw [Work.ensures_bind, Work.ensures_recordEntry]
  intro now''
  rw [Work.ensures_bind]
  refine Work.ensures_mono (fun d pair moves => ?_) (moveBalances_moves mem m rfl)
  exact ⟨moves.transfers, moves.entries, moves.deltas, rfl, ⟨rfl, rfl⟩, ⟨rfl, rfl⟩,
    moves.source, moves.target⟩

end Teller.Ledger
