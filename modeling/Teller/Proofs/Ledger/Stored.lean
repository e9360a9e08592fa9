import Teller.Ledger.Stored
import Teller.Proofs.Amount
import Teller.Proofs.Ledger.Coordinator
import Teller.Proofs.Store.Conservation

/-!
# Transfers in the database

A transfer posts to two accounts and adds the same to their balances, in one transaction. If all of
it is done, the transaction is committed with the money sound, provided that both accounts have the
same currency; if any of it fails, the rows are again what they were.
-/

namespace Teller.Ledger

open Store Store.Database

variable {α β : Type}

/-- How far a transaction has come that began with the rows of `start`: what it has posted, and what
it has added to balances. -/
structure Open (start : Database) (posts adds : List (Value × Int)) (db : Database) : Prop where
  saved : db.saved = some start.rows
  accounts : db.rows .accounts = (start.rows .accounts).map (credited adds)
  entries : ∃ new, db.rows .entries = start.rows .entries ++ new ∧
    new.map posting = posts.map fun p => (p.1, .integer p.2)

/-- In the same transaction after a write: as far as that, if it was done, and able to be rolled back
in any case. -/
def Stage (start : Database) (posts adds : List (Value × Int)) :
    Except Store.Error α → Database → Prop
  | .ok _, db => Open start posts adds db
  | .error _, db => db.saved = some start.rows

/-- What a movement posts, to its source and to its target. -/
def Movement.posts (m : Movement) : List (Value × Int) :=
  [(.integer m.source, -m.amount.toInt), (.integer m.target, m.amount.toInt)]

/-- The balances have taken what was posted, in whatever order. -/
def Settled (start : Database) (m : Movement) : Except Store.Error α → Database → Prop
  | .ok _, db => ∃ adds, Open start m.posts adds db ∧ ∀ id, added adds id = added m.posts id
  | .error _, db => db.saved = some start.rows

section Open

variable {start db : Database} {posts adds : List (Value × Int)}

theorem Open.of_same {db' : Database} (h : Open start posts adds db) (same : SameMoney db db')
    (saved : db'.saved = db.saved) : Open start posts adds db' where
  saved := saved.trans h.saved
  accounts := same.accounts.trans h.accounts
  entries := by rw [same.entries]; exact h.entries

/-! ### Writes in a transaction -/

/-- A transfer is recorded only with a positive amount. -/
theorem stage_recordTransfer (m : Movement) (h : Open start posts adds db) :
    (stored.perform (Work.recordTransfer m)).Ensures (fun result db' =>
      Stage start posts adds result db' ∧ (result.isOk → 0 < m.amount.toInt)) db := by
  rw [perform_recordTransfer]
  refine ensures_insert (fun e => ⟨h.saved, nofun⟩) fun accepted result => ?_
  cases result with
  | error e => exact ⟨h.saved, nofun⟩
  | ok row =>
    have positive : 0 < m.amount.toInt := of_decide_eq_true (insertionRefused?_eq_none_iff.1 accepted).2.1
    exact ⟨h.of_same (.setRows (by decide) (by decide) (.takeSerial _ (.refl db)) _) rfl,
      fun _ => positive⟩

theorem stage_recordEntry (id : Id) (n : Int64) (h : Open start posts adds db) :
    (stored.perform (Work.recordEntry id n)).Ensures
      (Stage start (posts ++ [(.integer id, n.toInt)]) adds) db := by
  rw [perform_recordEntry]
  refine ensures_insert (fun _ => h.saved) fun _ result => ?_
  cases result with
  | error e => exact h.saved
  | ok row =>
    obtain ⟨new, entries, postings⟩ := h.entries
    refine ⟨h.saved, ?_, ?_⟩
    · rw [rows_setRows_ne (by decide)]
      exact h.accounts
    · rw [rows_setRows_self, entries, List.append_assoc]
      refine ⟨_, rfl, ?_⟩
      rw [List.map_append, postings, List.map_append]
      rfl

theorem mapM_eq_map {γ δ : Type} {f : γ → Option δ} {g : γ → δ} {l : List γ} {l' : List δ}
    (h : ∀ x ∈ l, ∀ y, f x = some y → y = g x) (hl : l.mapM f = some l') : l' = l.map g := by
  induction l generalizing l' with
  | nil => cases hl; rfl
  | cons x l ih =>
    rw [List.mapM_cons] at hl
    obtain ⟨y, hy, hl⟩ := Option.bind_eq_some_iff.1 hl
    obtain ⟨rest, hrest, hl⟩ := Option.bind_eq_some_iff.1 hl
    cases hl
    rw [List.map_cons, h x List.mem_cons_self y hy,
      ih (fun x' hx' => h x' (List.mem_cons_of_mem x hx')) hrest]

/-- A row whose balance is increased. -/
theorem credited_of_changedRow? {id : Id} {n : Int64} {row row' : Row} {m : Int}
    (same : row .id = .integer id) (balance : row .balance = .integer m)
    (h : changedRow? [.ofAmount n, .integer id] row [(.balance, .increase 1)] = some row') :
    row' = credited [(.integer id, n.toInt)] row := by
  obtain ⟨cells, hcells, h⟩ := Option.bind_eq_some_iff.1 h
  obtain ⟨cell, hcell, hcells⟩ := Option.bind_eq_some_iff.1 (List.mapM_cons.symm.trans hcells)
  obtain ⟨v, hv, hcell⟩ := Option.bind_eq_some_iff.1 hcell
  cases h
  cases hcells
  cases hcell
  rw [balance] at hv
  change (Amount.ofInt? (m + n.toInt)).map Value.ofAmount = some v at hv
  obtain ⟨sum, hsum, rfl⟩ := Option.map_eq_some_iff.1 hv
  rw [Amount.ofInt?_eq_some_iff] at hsum
  funext c
  by_cases here : c = .balance
  · subst here
    rw [credited_balance, balance, same, added_singleton, if_pos rfl]
    exact congrArg Value.integer hsum
  · rw [credited, if_neg here, List.lookup_cons, beq_false_of_ne here]
    rfl

/-- Rows of which those of an account are increased. -/
theorem credited_of_changed {adds : List (Value × Int)} {first rows : List Row} {id : Id} {n : Int64}
    (h : ((first.map (credited adds)).mapM fun row =>
      if satisfies [.ofAmount n, .integer id] row (.id, 2) then
        changedRow? [.ofAmount n, .integer id] row [(.balance, .increase 1)]
      else some row) = some rows) :
    rows = (first.map (credited adds)).map (credited [(.integer id, n.toInt)]) := by
  refine mapM_eq_map (fun row hrow row' hrow' => ?_) h
  obtain ⟨first, -, rfl⟩ := List.mem_map.1 hrow
  split at hrow'
  · next meant => exact credited_of_changedRow? (of_decide_eq_true meant) rfl hrow'
  · next other =>
    have ne : Value.integer id ≠ first .id := fun same => other (decide_eq_true same.symm)
    cases hrow'
    rw [credited_credited]
    funext c
    unfold credited
    rw [added_append, added_singleton, if_neg ne, Int.add_zero]

theorem stage_add (id : Id) (n : Int64) (h : Open start posts adds db) :
    (stored.perform (Work.add id n)).Ensures
      (Stage start posts (adds ++ [(.integer id, n.toInt)])) db := by
  rw [perform_add]
  change Stage start posts _ (do readFirst _ _ (← (db.update .accounts [(.balance, .increase 1)]
    (.id, 2) Account.columns [.ofAmount n, .integer id]).1.rows?))
    (db.update .accounts [(.balance, .increase 1)] (.id, 2) Account.columns
      [.ofAmount n, .integer id]).2
  obtain refused | ⟨reply, rows, written, changed⟩ := db.update_cases .accounts
    [(.balance, .increase 1)] (.id, 2) Account.columns [.ofAmount n, .integer id]
  · rw [refused]
    exact h.saved
  · rw [written]
    rw [h.accounts] at changed
    have rows_eq := credited_of_changed changed
    cases (do readFirst Statement.addBalance.answer Account.ofCells (← reply.rows?)) with
    | error e => exact h.saved
    | ok a =>
      refine ⟨h.saved, ?_, ?_⟩
      · rw [rows_setRows_self, rows_eq, List.map_map]
        exact List.map_congr_left fun row _ => credited_credited adds _ row
      · rw [rows_setRows_ne (by decide)]
        exact h.entries

/-! ### The whole transaction -/

theorem ensures_perform_bind {x : Work α} {f : α → Work β}
    {mid : Except Store.Error α → Database → Prop} {post : Except Store.Error β → Database → Prop}
    (hx : (stored.perform x).Ensures mid db)
    (done : ∀ a db', mid (.ok a) db' → (stored.perform (f a)).Ensures post db')
    (failed : ∀ e db', mid (.error e) db' → post (.error e) db') :
    (stored.perform (x >>= f)).Ensures post db := by
  rw [perform_bind]
  refine hx.bind fun result db' h => ?_
  cases result with
  | ok a => exact done a db' h
  | error e => exact failed e db' h

theorem settled_moveBalances {m : Movement} (positive : 0 < m.amount.toInt)
    (h : Open start m.posts [] db) :
    (stored.perform (Work.moveBalances m)).Ensures (Settled start m) db := by
  have neg := Amount.toInt_neg_of_pos positive
  unfold Work.moveBalances
  split
  · next same =>
    refine ensures_perform_bind (stage_add m.source 0 h) (fun a db' h' => ?_) fun _ _ saved => saved
    refine ⟨_, h', fun id => ?_⟩
    rw [Movement.posts, added_pair, same, List.nil_append, added_singleton]
    split
    · exact (Int.add_left_neg _).symm
    · rfl
  · split
    · refine ensures_perform_bind (stage_add m.source (-m.amount) h) (fun a db' h' => ?_)
        fun _ _ saved => saved
      refine ensures_perform_bind (stage_add m.target m.amount h') (fun b db'' h'' => ?_)
        fun _ _ saved => saved
      refine ⟨_, h'', fun id => ?_⟩
      rw [neg]
      rfl
    · refine ensures_perform_bind (stage_add m.target m.amount h) (fun b db' h' => ?_)
        fun _ _ saved => saved
      refine ensures_perform_bind (stage_add m.source (-m.amount) h') (fun a db'' h'' => ?_)
        fun _ _ saved => saved
      refine ⟨_, h'', fun id => ?_⟩
      rw [Movement.posts, added_pair, neg, Int.add_comm, ← added_pair]
      rfl

theorem settled_transfer (m : Movement) (h : Open start [] [] db) :
    (stored.perform (Work.transfer m)).Ensures (Settled start m) db := by
  refine ensures_perform_bind (stage_recordTransfer m h) (fun transfer db₁ h₁ => ?_)
    fun _ _ saved => saved.1
  have positive : 0 < m.amount.toInt := h₁.2 rfl
  refine ensures_perform_bind (stage_recordEntry m.source (-m.amount) h₁.1)
    (fun debit db₂ h₂ => ?_) fun _ _ saved => saved
  refine ensures_perform_bind (stage_recordEntry m.target m.amount h₂)
    (fun credit db₃ h₃ => ?_) fun _ _ saved => saved
  have posted : Open start m.posts [] db₃ := by
    have sides : [] ++ [(Value.integer m.source, (-m.amount).toInt)] ++
        [(Value.integer m.target, m.amount.toInt)] = m.posts := by
      rw [Amount.toInt_neg_of_pos positive]
      rfl
    exact sides ▸ h₃
  exact ensures_perform_bind (settled_moveBalances positive posted) (fun _ _ settled => settled)
    fun _ _ saved => saved

/-- What a settled transaction commits is sound, if both accounts have one currency. -/
theorem Settled.sound {m : Movement} {x : α} (sound : start.Sound)
    {a b : Row} (ha : a ∈ start.rows .accounts) (hb : b ∈ start.rows .accounts)
    (source : a .id = .integer m.source) (target : b .id = .integer m.target)
    (same : a .currency = b .currency) (h : Settled start m (.ok x : Except Store.Error α) db) :
    Fair start { db with saved := none } := by
  obtain ⟨adds, stage, agree⟩ := h
  obtain ⟨new, entries, postings⟩ := stage.entries
  refine .of_ids ?_ ?_
  · unfold Sound
    dsimp only
    rw [stage.accounts, entries]
    refine sound.moved ha hb same (n := m.amount.toInt) ?_ ?_
    · rw [postings, source, target]
      rfl
    · rw [source, target]
      exact agree
  · dsimp only
    rw [stage.accounts, List.map_map]
    rfl

end Open

/-- A transfer between accounts of one currency keeps the money sound, and every account. -/
theorem fair_storedTransfer {db : Database} {m : Movement} (sound : db.Sound) {a b : Row}
    (ha : a ∈ db.rows .accounts) (hb : b ∈ db.rows .accounts)
    (source : a .id = .integer m.source) (target : b .id = .integer m.target)
    (same : a .currency = b .currency) :
    (storedTransfer m).Ensures (fun _ after => Fair db after) db := by
  have opened : Open db [] [] { db with saved := some db.rows } := by
    refine ⟨rfl, ?_, [], (List.append_nil _).symm, rfl⟩
    have unchanged : ∀ row ∈ db.rows .accounts, credited [] row = row :=
      fun row hrow => credited_nil (sound.balances row hrow)
    exact ((List.map_congr_left unchanged).trans (List.map_id _)).symm
  change Interaction.Ensures _ (stored.perform (Work.transfer m) >>= _) _
  refine (settled_transfer m opened).bind fun result mid h => ?_
  cases result with
  | ok receipt => exact h.sound sound ha hb source target same
  | error e =>
    have rows : mid.saved.getD mid.rows = db.rows := by rw [h]; rfl
    have same : SameMoney db { mid with rows := mid.saved.getD mid.rows, saved := none } :=
      ⟨congrFun rows .accounts, congrFun rows .entries⟩
    exact same.fair sound

end Teller.Ledger
