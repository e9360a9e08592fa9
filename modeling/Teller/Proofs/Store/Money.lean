import Mathlib.Data.List.Nodup
import Teller.Proofs.Sums
import Teller.Store.Database

/-!
# Money in the tables

Rows of accounts and entries that agree: every balance is what the entries have posted to its
account, and in each currency the balances come to nothing. Such rows stay in agreement if an
account is opened with a balance of zero, if accounts to which nothing was posted are closed, and if
entries and balances take the same amounts and these come to nothing in each currency.
-/

namespace Teller.Store

/-- The integer in a cell, and zero if there is none. -/
def Value.toInt (v : Value) : Int := v.integer?.getD 0

/-- What has been posted to the account of an identifier. -/
def posted (entries : List Row) (account : Value) : Int :=
  ((entries.filter fun e => e .accountId = account).map fun e => (e .amount).toInt).sum

/-- All balances in a currency. -/
def total (accounts : List Row) (currency : String) : Int :=
  ((accounts.filter fun a => a .currency = .text currency).map fun a => (a .balance).toInt).sum

/-- Every entry belongs to one account, every balance is what was posted to it, and the balances in
each currency come to nothing. -/
structure Conserved (accounts entries : List Row) : Prop where
  distinct : (accounts.map fun a => a .id).Nodup
  currencies : ∀ a ∈ accounts, ∃ currency, a .currency = .text currency
  known : ∀ e ∈ entries, e .accountId ∈ accounts.map fun a => a .id
  amounts : ∀ e ∈ entries, ∃ n, e .amount = .integer n
  balances : ∀ a ∈ accounts, a .balance = .integer (posted entries (a .id))
  totals : ∀ currency, total accounts currency = 0

theorem posted_append (entries new : List Row) (account : Value) :
    posted (entries ++ new) account = posted entries account + posted new account := by
  rw [posted, List.filter_append, List.map_append, List.sum_append]
  rfl

theorem total_append (accounts new : List Row) (currency : String) :
    total (accounts ++ new) currency = total accounts currency + total new currency := by
  rw [total, List.filter_append, List.map_append, List.sum_append]
  rfl

theorem posted_eq_zero {entries : List Row} {account : Value}
    (h : ∀ e ∈ entries, e .accountId ≠ account) : posted entries account = 0 := by
  have none : entries.filter (fun e => e .accountId = account) = [] := by
    rw [List.filter_eq_nil_iff]
    exact fun e he => by simpa using h e he
  rw [posted, none]
  rfl

/-- Rows with balances of zero add nothing to a total. -/
theorem total_eq_zero {accounts : List Row} (h : ∀ a ∈ accounts, a .balance = .integer 0)
    (currency : String) : total accounts currency = 0 := by
  refine List.sum_eq_zero fun n hn => ?_
  obtain ⟨a, ha, rfl⟩ := List.mem_map.1 hn
  rw [h a (List.mem_filter.1 ha).1]
  rfl

theorem total_filter (accounts : List Row) (stays : Row → Bool) (currency : String) :
    total (accounts.filter stays) currency + total (accounts.filter fun a => !stays a) currency =
      total accounts currency := by
  have parts := List.sum_map_filter_add_sum_map_filter_not (fun a => stays a = true)
    (fun a => (a .balance).toInt) (accounts.filter fun a => a .currency = .text currency)
  rw [total, total, total, ← parts]
  simp only [List.filter_filter, Bool.and_comm, Bool.decide_eq_true, Bool.not_eq_true,
    Bool.decide_eq_false]

namespace Conserved

variable {accounts entries : List Row}

theorem empty : Conserved [] [] where
  distinct := List.nodup_nil
  currencies _ h := absurd h List.not_mem_nil
  known _ h := absurd h List.not_mem_nil
  amounts _ h := absurd h List.not_mem_nil
  balances _ h := absurd h List.not_mem_nil
  totals _ := rfl

/-! ### Opening and closing -/

theorem opened (h : Conserved accounts entries) {row : Row} {currency : String}
    (hcurrency : row .currency = .text currency) (balance : row .balance = .integer 0)
    (fresh : row .id ∉ accounts.map fun a => a .id) : Conserved (accounts ++ [row]) entries where
  distinct := by
    rw [List.map_append, List.nodup_append]
    refine ⟨h.distinct, List.nodup_singleton _, ?_⟩
    rintro id hid _ hrow rfl
    rw [List.map_singleton, List.mem_singleton] at hrow
    exact fresh (hrow ▸ hid)
  currencies a ha := by
    rcases List.mem_append.1 ha with ha | ha
    · exact h.currencies a ha
    · exact ⟨currency, List.mem_singleton.1 ha ▸ hcurrency⟩
  known e he := by
    rw [List.map_append]
    exact List.mem_append_left _ (h.known e he)
  amounts := h.amounts
  balances a ha := by
    rcases List.mem_append.1 ha with ha | ha
    · exact h.balances a ha
    · rw [List.mem_singleton.1 ha, balance, posted_eq_zero]
      exact fun e he same => fresh (same ▸ h.known e he)
  totals currency := by
    rw [total_append, h.totals, total_eq_zero, Int.add_zero]
    exact fun a ha => List.mem_singleton.1 ha ▸ balance

/-- An account to which nothing was posted has a balance of zero. -/
theorem balance_of_unnamed (h : Conserved accounts entries) {a : Row} (ha : a ∈ accounts)
    (unnamed : ∀ e ∈ entries, e .accountId ≠ a .id) : a .balance = .integer 0 := by
  rw [h.balances a ha, posted_eq_zero unnamed]

theorem closed (h : Conserved accounts entries) {stays : Row → Bool}
    (unnamed : ∀ a ∈ accounts, stays a = false → ∀ e ∈ entries, e .accountId ≠ a .id) :
    Conserved (accounts.filter stays) entries where
  distinct := h.distinct.sublist (List.filter_sublist.map _)
  currencies a ha := h.currencies a (List.mem_filter.1 ha).1
  known e he := by
    obtain ⟨a, ha, same⟩ := List.mem_map.1 (h.known e he)
    cases stay : stays a with
    | true => exact List.mem_map.2 ⟨a, List.mem_filter.2 ⟨ha, stay⟩, same⟩
    | false => exact absurd same.symm (unnamed a ha stay e he)
  amounts := h.amounts
  balances a ha := h.balances a (List.mem_filter.1 ha).1
  totals currency := by
    have rest : total (accounts.filter fun a => !stays a) currency = 0 := by
      refine total_eq_zero (fun a ha => ?_) currency
      obtain ⟨ha, goes⟩ := List.mem_filter.1 ha
      exact h.balance_of_unnamed ha (unnamed a ha (by simpa using goes))
    have parts := total_filter accounts stays currency
    rwa [rest, Int.add_zero, h.totals] at parts

end Conserved

/-! ### Posting -/

/-- What amounts for certain accounts add to one of them. -/
def added (amounts : List (Value × Int)) (account : Value) : Int :=
  ((amounts.filter fun p => p.1 = account).map Prod.snd).sum

/-- A row with the amounts for its account added to its balance. -/
def credited (amounts : List (Value × Int)) (row : Row) : Row := fun c =>
  if c = .balance then .integer ((row .balance).toInt + added amounts (row .id)) else row c

@[simp] theorem credited_id (amounts : List (Value × Int)) (row : Row) :
    credited amounts row .id = row .id := rfl

@[simp] theorem credited_balance (amounts : List (Value × Int)) (row : Row) :
    credited amounts row .balance =
      .integer ((row .balance).toInt + added amounts (row .id)) := rfl

theorem added_append (amounts more : List (Value × Int)) (account : Value) :
    added (amounts ++ more) account = added amounts account + added more account := by
  rw [added, List.filter_append, List.map_append, List.sum_append]
  rfl

theorem added_singleton (id : Value) (n : Int) (account : Value) :
    added [(id, n)] account = if id = account then n else 0 := by
  by_cases same : id = account <;> simp [added, same]

theorem added_pair (id id' : Value) (n n' : Int) (account : Value) :
    added [(id, n), (id', n')] account =
      (if id = account then n else 0) + (if id' = account then n' else 0) := by
  rw [← List.singleton_append, added_append, added_singleton, added_singleton]

theorem credited_nil {row : Row} {n : Int} (balance : row .balance = .integer n) :
    credited [] row = row := by
  funext c
  unfold credited
  split
  · next same => rw [same, balance]; exact congrArg Value.integer (Int.add_zero n)
  · rfl

theorem credited_credited (amounts more : List (Value × Int)) (row : Row) :
    credited more (credited amounts row) = credited (amounts ++ more) row := by
  funext c
  unfold credited
  split
  · rw [added_append]
    exact congrArg Value.integer (Int.add_assoc ..)
  · rfl

/-- The account and the amount of an entry. -/
def posting (e : Row) : Value × Value := (e .accountId, e .amount)

theorem posted_of_postings {new : List Row} (amounts : List (Value × Int))
    (h : new.map posting = amounts.map fun p => (p.1, .integer p.2)) (account : Value) :
    posted new account = added amounts account := by
  induction amounts generalizing new with
  | nil => rw [List.map_eq_nil_iff.1 h]; rfl
  | cons p amounts ih =>
    obtain ⟨e, rest, rfl, he, hrest⟩ := List.map_eq_cons_iff.1 h
    obtain ⟨same, amount⟩ := Prod.ext_iff.1 he
    have tail := ih hrest
    have head : posted [e] account = added [p] account := by
      change e .accountId = p.1 at same
      change e .amount = .integer p.2 at amount
      rw [added_singleton, posted, List.filter_singleton, same]
      by_cases here : p.1 = account
      · simp [here, amount, Value.toInt, Value.integer?]
      · simp [here]
    rw [← List.singleton_append, posted_append, head, tail, ← added_append, List.singleton_append]

namespace Conserved

variable {accounts entries : List Row}

theorem total_credited (accounts : List Row) (amounts : List (Value × Int)) (currency : String) :
    total (accounts.map (credited amounts)) currency = total accounts currency +
      ((accounts.filter fun a => a .currency = .text currency).map fun a =>
        added amounts (a .id)).sum := by
  rw [total, total, List.filter_map, List.map_map, ← List.sum_map_add]
  rfl

/-- Among the rows with a currency, an identifier stands once or not at all. -/
theorem sum_in_currency (distinct : (accounts.map fun a => a .id).Nodup) {a : Row}
    (ha : a ∈ accounts) (n : Int) (currency : String) :
    ((accounts.filter fun b => b .currency = .text currency).map fun b =>
      if a .id = b .id then n else 0).sum = if a .currency = .text currency then n else 0 := by
  have nodup := distinct.sublist
    ((List.filter_sublist (p := fun b => b .currency = .text currency)).map fun a : Row => a .id)
  split
  · next here =>
    refine sum_ite_of_mem nodup (List.mem_map.2 ⟨a, List.mem_filter.2 ⟨ha, ?_⟩, rfl⟩) n
    exact decide_eq_true here
  · next elsewhere =>
    refine sum_ite_of_not_mem (fun mem => ?_) n
    obtain ⟨b, hb, same⟩ := List.mem_map.1 mem
    obtain ⟨hb, there⟩ := List.mem_filter.1 hb
    have eq : b = a := List.inj_on_of_nodup_map distinct hb ha same
    exact elsewhere (eq ▸ of_decide_eq_true there)

theorem of_posting {new : List Row} {a b : Row} {n : Int}
    (postings : new.map posting = [(a .id, .integer (-n)), (b .id, .integer n)]) {e : Row}
    (he : e ∈ new) :
    (e .accountId = a .id ∨ e .accountId = b .id) ∧ ∃ n, e .amount = .integer n := by
  have mem : posting e ∈ [(a .id, Value.integer (-n)), (b .id, .integer n)] :=
    postings ▸ List.mem_map_of_mem he
  rw [List.mem_cons, List.mem_singleton] at mem
  rcases mem with out | into
  · obtain ⟨account, amount⟩ := Prod.ext_iff.1 out
    exact ⟨.inl account, -n, amount⟩
  · obtain ⟨account, amount⟩ := Prod.ext_iff.1 into
    exact ⟨.inr account, n, amount⟩

/-- Money that goes from one account to another of the same currency is conserved. -/
theorem moved (h : Conserved accounts entries) {a b : Row} (ha : a ∈ accounts) (hb : b ∈ accounts)
    (same : a .currency = b .currency) {n : Int} {new : List Row} {amounts : List (Value × Int)}
    (postings : new.map posting = [(a .id, .integer (-n)), (b .id, .integer n)])
    (agree : ∀ id, added amounts id = added [(a .id, -n), (b .id, n)] id) :
    Conserved (accounts.map (credited amounts)) (entries ++ new) where
  distinct := by
    rw [List.map_map]
    exact h.distinct
  currencies a' ha' := by
    obtain ⟨row, hrow, rfl⟩ := List.mem_map.1 ha'
    exact h.currencies row hrow
  known e he := by
    rw [List.map_map]
    rcases List.mem_append.1 he with he | he
    · exact h.known e he
    · obtain ⟨account | account, -⟩ := of_posting postings he
      · exact account ▸ List.mem_map_of_mem ha
      · exact account ▸ List.mem_map_of_mem hb
  amounts e he := by
    rcases List.mem_append.1 he with he | he
    · exact h.amounts e he
    · exact (of_posting postings he).2
  balances a' ha' := by
    obtain ⟨row, hrow, rfl⟩ := List.mem_map.1 ha'
    rw [credited_balance, credited_id, posted_append, posted_of_postings [(a .id, -n), (b .id, n)]
      postings, agree, h.balances row hrow]
    rfl
  totals currency := by
    -- Both accounts are in one currency, so what leaves one side of the total comes back to it.
    have sides : (fun row : Row => added amounts (row .id)) = fun row =>
        (if a .id = row .id then -n else 0) + (if b .id = row .id then n else 0) := by
      funext row
      rw [agree, added_pair]
    rw [total_credited, h.totals, sides, List.sum_map_add, sum_in_currency h.distinct ha,
      sum_in_currency h.distinct hb, same]
    split <;> omega

end Conserved

end Teller.Store
