import Teller.Proofs.Store.Money
import Teller.Proofs.Store.Tables

/-!
# Money in the database

What the store may do to the rows of accounts and entries and leave the money sound: nothing at all,
open an account with a balance of zero, or delete an account. An account that entries name cannot be
deleted, so whatever goes has a balance of zero.
-/

namespace Teller.Store

namespace Database

/-- The money in the tables is sound. -/
def Sound (db : Database) : Prop := Conserved (db.rows .accounts) (db.rows .entries)

/-- The money is sound afterwards, and an account that is gone had a balance of zero. -/
structure Fair (before after : Database) : Prop where
  sound : after.Sound
  gone : ∀ a ∈ before.rows .accounts, a .id ∉ (after.rows .accounts).map (fun b => b .id) →
    a .balance = .integer 0

variable {before mid after : Database}

theorem SameMoney.sound (same : SameMoney before after) (h : before.Sound) : after.Sound := by
  unfold Sound
  rw [same.accounts, same.entries]
  exact h

/-- No account is gone if the identifiers are the same. -/
theorem Fair.of_ids (sound : after.Sound) (ids : (after.rows .accounts).map (fun a => a .id) =
    (before.rows .accounts).map fun a => a .id) : Fair before after where
  sound := sound
  gone a ha absent := by
    rw [ids] at absent
    exact absurd (List.mem_map_of_mem ha) absent

theorem SameMoney.fair (same : SameMoney before after) (h : before.Sound) : Fair before after :=
  .of_ids (same.sound h) (by rw [same.accounts])

theorem Fair.after_same (same : SameMoney before mid) (h : Fair mid after) : Fair before after where
  sound := h.sound
  gone a ha := h.gone a (same.accounts ▸ ha)

theorem Fair.before_same (h : Fair before mid) (same : SameMoney mid after) : Fair before after where
  sound := same.sound h.sound
  gone a ha absent := h.gone a ha (same.accounts ▸ absent)

/-- No entry belongs to a row of an account that can be deleted. -/
theorem unnamed_of_not_isReferenced {db : Database} {a : Row}
    (h : db.isReferenced .accounts a = false) : ∀ e ∈ db.rows .entries, e .accountId ≠ a .id := by
  intro e he same
  have named : db.has .entries .accountId (a .id) = true :=
    List.any_eq_true.2 ⟨e, he, decide_eq_true same⟩
  have found : db.isReferenced .accounts a = true :=
    List.any_eq_true.2 ⟨.entries, by decide, List.any_eq_true.2
      ⟨⟨.accountId, .accounts, .id⟩, List.mem_singleton_self _, by simpa using named⟩⟩
  rw [h] at found
  cases found

end Database

end Teller.Store

namespace Teller.Interaction

open Store Store.Database

variable {α β : Type}

/-- Keeps the money sound, and deletes no account but with a balance of zero. -/
def Fair (x : Interaction α) : Prop :=
  ∀ db : Database, db.Sound → x.Ensures (fun _ after => Database.Fair db after) db

theorem Quiet.fair {x : Interaction α} (hx : x.Quiet) : x.Fair :=
  fun db sound => (hx db).mono fun _ _ same => same.fair sound

theorem Quiet.bind_fair {x : Interaction α} {f : α → Interaction β} (hx : x.Quiet)
    (hf : ∀ a, (f a).Fair) : (x >>= f).Fair := fun db sound =>
  (hx db).bind fun a mid same =>
    (hf a mid (same.sound sound)).mono fun _ _ fair => fair.after_same same

theorem Fair.bind_quiet {x : Interaction α} {f : α → Interaction β} (hx : x.Fair)
    (hf : ∀ a, (f a).Quiet) : (x >>= f).Fair := fun db sound =>
  (hx db sound).bind fun a mid fair => (hf a mid).mono fun _ _ same => fair.before_same same

/-- An account that is opened with nothing in it is fair. -/
theorem fair_insertAccount (owner currency : String) : (insertAccount owner currency 0).Fair := by
  intro db sound
  refine ensures_insert (fun _ => SameMoney.fair (.takeSerial .accounts (.refl db)) sound)
    fun accepted _ => ?_
  have opened := sound.opened rfl rfl
    (fresh_of_not_insertionRefused? accepted List.mem_cons_self)
  constructor
  · unfold Sound
    rw [rows_setRows_self, rows_setRows_ne (by decide)]
    exact opened
  · intro a ha absent
    rw [rows_setRows_self, List.map_append] at absent
    exact absurd (List.mem_append_left _ (List.mem_map_of_mem ha)) absent

/-- Only accounts to which nothing was posted can be deleted. -/
theorem fair_deleteAccount (id : Id) : (deleteAccount id).Fair := by
  intro db sound
  change Database.Fair db (db.delete .accounts (.id, 1) [.integer id]).2
  unfold Database.delete
  rw [List.partition_eq_filter_filter]
  dsimp only
  split
  · exact SameMoney.fair (.refl db) sound
  · next unreferenced =>
    -- A row that goes has no entry, so its balance is zero and the totals stay.
    have unnamed : ∀ a ∈ db.rows .accounts, satisfies [.integer id] a (.id, 1) = true →
        ∀ e ∈ db.rows .entries, e .accountId ≠ a .id := by
      intro a ha meant
      refine unnamed_of_not_isReferenced ?_
      cases named : db.isReferenced .accounts a with
      | false => rfl
      | true =>
        exact absurd (List.any_eq_true.2 ⟨a, List.mem_filter.2 ⟨ha, meant⟩, named⟩) unreferenced
    constructor
    · unfold Sound
      rw [rows_setRows_self, rows_setRows_ne (by decide)]
      exact sound.closed fun a ha goes => unnamed a ha (by simpa using goes)
    · intro a ha absent
      rw [rows_setRows_self] at absent
      refine sound.balance_of_unnamed ha (unnamed a ha ?_)
      cases meant : satisfies [.integer id] a (.id, 1) with
      | true => rfl
      | false =>
        have stays : a ∈ (db.rows .accounts).filter fun a => !satisfies [.integer id] a (.id, 1) :=
          List.mem_filter.2 ⟨ha, congrArg not meant⟩
        exact absurd (List.mem_map_of_mem stays) absent

end Teller.Interaction
