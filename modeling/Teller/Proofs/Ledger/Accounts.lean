import Teller.Proofs.Amount
import Teller.Proofs.Ledger.Commits
import Teller.Proofs.Ledger.Locks

/-!
# Accounts and what has been added to them

Accounts are numbered from one on, in the order in which they are opened, and each balance is what
its account was opened with and what was added to it since. What was added can be told by one book
or another: by the entries, by the log.
-/

namespace Teller.Ledger

/-- The balances that accounts are opened with. -/
def openings {α : Type} (es : List (Event α)) : List Int64 :=
  es.filterMap fun
    | .insertAccount _ _ balance => some balance
    | _ => none

/-- Accounts are numbered from one on. -/
def Books.Numbered (books : Books) : Prop :=
  ∀ (k : Nat) a, books.accounts[k]? = some a → a.id = k + 1

/-- The accounts are numbered, were opened with these balances, and have been added these amounts. -/
structure Books.Tally (openings : List Int64) (added : Id → Int) (books : Books) : Prop where
  opened : books.accounts.length = openings.length
  numbered : books.Numbered
  balances : ∀ (k : Nat) a o, books.accounts[k]? = some a → openings[k]? = some o →
    a.balance.toInt = o.toInt + added a.id

namespace Books.Numbered

variable {books : Books}

theorem nodup (h : books.Numbered) : (books.accounts.map Account.id).Nodup := by
  rw [List.nodup_iff_pairwise_ne, List.pairwise_map, List.pairwise_iff_getElem]
  intro i j hi hj lt
  rw [h i _ (List.getElem?_eq_getElem hi), h j _ (List.getElem?_eq_getElem hj)]
  change (i : Int) + 1 ≠ j + 1
  omega

/-- Every account is found under its number. -/
theorem account?_of_getElem? (h : books.Numbered) {k : Nat} {a : Account}
    (ha : books.accounts[k]? = some a) : books.account? a.id = some a := by
  obtain ⟨lt, rfl⟩ := List.getElem?_eq_some_iff.1 ha
  rw [Books.account?, List.find?_eq_some_iff_getElem]
  refine ⟨decide_eq_true rfl, k, lt, rfl, fun j hj => ?_⟩
  rw [Bool.not_eq_true', decide_eq_false_iff_not, h k _ ha,
    h j _ (List.getElem?_eq_getElem (Nat.lt_trans hj lt))]
  change (j : Int) + 1 ≠ k + 1
  omega

/-- The next number belongs to no account. -/
theorem ne_next (h : books.Numbered) {id : Id} (known : (books.account? id).isSome) :
    id ≠ books.accounts.length + 1 := by
  obtain ⟨a, ha⟩ := Option.isSome_iff_exists.1 known
  obtain ⟨k, hk⟩ := List.mem_iff_getElem?.1 (List.mem_of_find?_eq_some ha)
  have lt := (List.getElem?_eq_some_iff.1 hk).1
  rw [← Books.id_of_account? ha, h k a hk]
  change (k : Int) + 1 ≠ books.accounts.length + 1
  omega

end Books.Numbered

namespace Books.Tally

variable {opened : List Int64} {added added' : Id → Int} {mem : Memory}

theorem empty : Tally [] added .empty where
  opened := rfl
  numbered _ _ h := by cases h
  balances _ _ _ h := by cases h

/-- Each account by its number, with what it was opened with. -/
theorem entry {books : Books} (h : books.Tally opened added) {k : Nat} {a : Account}
    (ha : books.accounts[k]? = some a) :
    a.id = k + 1 ∧ ∃ o, opened[k]? = some o ∧ a.balance.toInt = o.toInt + added a.id := by
  have lt := h.opened ▸ (List.getElem?_eq_some_iff.1 ha).1
  have ho := List.getElem?_eq_getElem lt
  exact ⟨h.numbered k a ha, _, ho, h.balances k a _ ha ho⟩

/-- A new account gets a number to which nothing has been added. -/
theorem insertAccount (h : mem.books.Tally opened added)
    (fresh : added (mem.books.accounts.length + 1) = 0) (owner currency : String)
    (balance : Int64) :
    (mem.insertAccount owner currency balance).books.Tally (opened ++ [balance]) added where
  opened := by
    change (_ ++ [_]).length = _
    rw [List.length_append, List.length_append, h.opened]
    rfl
  numbered k a ha := by
    rcases getElem?_concat_cases ha with ha | ⟨rfl, rfl⟩
    · exact h.numbered k a ha
    · rfl
  balances k a o ha ho := by
    rcases getElem?_concat_cases ha with ha | ⟨rfl, rfl⟩
    · have lt := (List.getElem?_eq_some_iff.1 ha).1
      rw [List.getElem?_append_left (h.opened ▸ lt)] at ho
      exact h.balances k a o ha ho
    · rw [h.opened, List.getElem?_concat_length, Option.some.injEq] at ho
      subst ho
      rw [fresh, Int.add_zero]

/-- The balances take what a draft adds to them, and no sum leaves its range. -/
theorem commit (h : mem.books.Tally opened added) {d : Draft} (lawful : d.Lawful mem)
    (more : ∀ id, added' id = added id + (d.deltas id).toInt) :
    (mem.commit d).books.Tally opened added' where
  opened := (List.length_map _).trans h.opened
  numbered k a ha := by
    obtain ⟨b, hb, rfl⟩ := Option.map_eq_some_iff.1 ((List.getElem?_map ..).symm.trans ha)
    exact h.numbered k b hb
  balances k a o ha ho := by
    obtain ⟨b, hb, rfl⟩ := Option.map_eq_some_iff.1 ((List.getElem?_map ..).symm.trans ha)
    change (b.balance + d.deltas b.id).toInt = o.toInt + added' b.id
    rw [Amount.toInt_add (lawful.add?_isSome (h.numbered.account?_of_getElem? hb)), more,
      h.balances k b o hb ho, Int.add_assoc]

end Books.Tally

end Teller.Ledger
