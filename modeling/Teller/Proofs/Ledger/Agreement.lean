import Mathlib.Data.List.Forall2
import Mathlib.Data.List.Nodup
import Teller.Gateway.Failure
import Teller.Ledger.Stored
import Teller.Proofs.Amount
import Teller.Proofs.Ledger.Alone
import Teller.Proofs.Store.Transfers

/-!
# The ledger in memory and the ledger in the database

Transfers that are called one after the other come to the same on both ledgers, although they go
different ways: a draft that is added to the books in the end, and rows that are changed at once and
brought back if anything fails. At every moment the rows are what the books would be if the draft
were committed now.
-/

namespace Teller

/-! ### Leaving instants aside -/

/-- The account but for the date. -/
def Account.undated (a : Account) : Account := { a with createdAt := .epoch }

def Transfer.undated (t : Transfer) : Transfer := { t with createdAt := .epoch }

def Entry.undated (e : Entry) : Entry := { e with createdAt := .epoch }

namespace Ledger

open Store Store.Database

/-- The rows of the receipt but for their dates. -/
def Receipt.undated (r : Receipt) : Receipt :=
  ⟨r.transfer.undated, r.source.undated, r.target.undated, r.debit.undated, r.credit.undated⟩

variable {α β γ δ : Type}

/-- Both have come to a value, of which `same` holds, or both to an error, of which a client is told
the same. -/
inductive Alike (same : α → β → Prop) : Except Store.Error α → Except Store.Error β → Prop where
  | ok {a b} (h : same a b) : Alike same (.ok a) (.ok b)
  | error {e e'} (h : Gateway.Failure.ofStore e = Gateway.Failure.ofStore e') :
      Alike same (.error e) (.error e')

/-- Books and rows with the same accounts, transfers and entries, dated as they may be. -/
structure Agree (books : Books) (rows : Table → List Row) : Prop where
  accounts : ∀ id a, books.account? id = some a → ∃ row ∈ rows .accounts, a.IsIn row
  others : ∀ v ∈ (rows .accounts).map fun row => row .id,
    ∃ id : Id, v = .integer id ∧ (books.account? id).isSome
  distinct : ((rows .accounts).map fun row => row .id).Nodup
  transfers : List.Forall₂ Transfer.IsIn books.transfers (rows .transfers)
  entries : List.Forall₂ Entry.IsIn books.entries (rows .entries)

namespace Agree

variable {books books' : Books} {rows rows' : Table → List Row}

/-- Only accounts, transfers and entries count. -/
theorem of_same (h : Agree books rows) (accounts : books'.accounts = books.accounts)
    (transfers : books'.transfers = books.transfers) (entries : books'.entries = books.entries) :
    Agree books' rows := by
  obtain ⟨_, _, _, _, _⟩ := books
  obtain ⟨_, _, _, _, _⟩ := books'
  cases accounts
  cases transfers
  cases entries
  exact ⟨h.accounts, h.others, h.distinct, h.transfers, h.entries⟩

/-- Another balance in one account and in its row. -/
theorem changeBalance (h : Agree books rows) {a : Account} {sum : Int64} {before after : List Row}
    {row : Row} (split : rows .accounts = before ++ row :: after) (isIn : a.IsIn row)
    (changed : books'.account? a.id = some { a with balance := sum })
    (same : ∀ i, i ≠ a.id → books'.account? i = books.account? i)
    (transfers : books'.transfers = books.transfers) (entries : books'.entries = books.entries) :
    Agree books' fun t =>
      if t = .accounts then before ++ withBalance sum row :: after else rows t := by
  have ids : (before ++ withBalance sum row :: after).map (fun row => row .id) =
      (rows .accounts).map fun row => row .id := by
    rw [split, List.map_append, List.map_append]
    rfl
  constructor
  · intro i x hx
    rw [if_pos rfl]
    by_cases here : i = a.id
    · rw [here, changed, Option.some.injEq] at hx
      exact ⟨_, List.mem_append_right _ List.mem_cons_self, hx ▸ isIn.withBalance sum⟩
    · rw [same i here] at hx
      obtain ⟨other, hother, other_isIn⟩ := h.accounts i x hx
      refine ⟨other, ?_, other_isIn⟩
      rw [split] at hother
      rcases List.mem_append.1 hother with hother | hother
      · exact List.mem_append_left _ hother
      rcases List.mem_cons.1 hother with rfl | hother
      · have twice : x.id = a.id := Value.integer.inj (other_isIn.id.symm.trans isIn.id)
        exact absurd ((Books.id_of_account? hx).symm.trans twice) here
      · exact List.mem_append_right _ (List.mem_cons_of_mem _ hother)
  · intro v hv
    rw [if_pos rfl, ids] at hv
    obtain ⟨i, rfl, known⟩ := h.others v hv
    refine ⟨i, rfl, ?_⟩
    by_cases here : i = a.id
    · rw [here, changed]
      rfl
    · rwa [same i here]
  · rw [if_pos rfl, ids]
    exact h.distinct
  · rw [transfers]
    exact h.transfers
  · rw [entries]
    exact h.entries

end Agree

/-- Committing an empty draft changes no row. -/
theorem agree_commit_empty {mem : Memory} {rows : Table → List Row} :
    Agree (mem.commit .empty).books rows ↔ Agree mem.books rows := by
  have accounts : (mem.commit .empty).books.accounts = mem.books.accounts := by
    refine (List.map_congr_left fun a _ => ?_).trans (List.map_id _)
    simp [Draft.empty]
  have transfers : (mem.commit .empty).books.transfers = mem.books.transfers := List.append_nil _
  have entries : (mem.commit .empty).books.entries = mem.books.entries := List.append_nil _
  exact ⟨fun h => h.of_same accounts.symm transfers.symm entries.symm,
    fun h => h.of_same accounts transfers entries⟩

/-! ### In the middle of a transaction -/

/-- A unit of work has come as far in the memory as in the database. -/
structure InStep (books : Books) (mem : Memory) (d : Draft) (db : Database) : Prop where
  books : mem.books = books
  sound : mem.faults = []
  now : Agree (mem.commit d).books db.rows
  before : ∃ saved, db.saved = some saved ∧ Agree mem.books saved
  lastTransfer : db.serials .transfers = mem.lastTransfer
  lastEntry : db.serials .entries = mem.lastEntry
  transferIds : ∀ t ∈ (mem.commit d).books.transfers, t.id ≤ mem.lastTransfer
  entryIds : ∀ e ∈ (mem.commit d).books.entries, e.id ≤ mem.lastEntry

/-- Where the rows of a table have numbers up to the last one given, the next one is free. -/
theorem nextIsFree_of_forall₂ {isIn : α → Row → Prop} {id : α → Id} {l : List α} {db : Database}
    {t : Table} (reads : ∀ x row, isIn x row → row .id = .integer (id x))
    (h : List.Forall₂ isIn l (db.rows t)) (bound : ∀ x ∈ l, id x ≤ db.serials t) :
    db.NextIsFree t := by
  intro row hrow next
  obtain ⟨x, hx, isIn⟩ := exists_of_mem_right h hrow
  have same : id x = db.serials t + 1 := Value.integer.inj ((reads x row isIn).symm.trans next)
  have := bound x hx
  rw [same] at this
  exact absurd this (Int.not_le.2 (Int.lt_succ _))

/-- Numbers up to the last one given, and the next one. -/
theorem le_of_mem_append_next {id : α → Id} {l l' : List α} {last : Nat} {x : α}
    (bound : ∀ y ∈ l ++ l', id y ≤ last) (next : id x = (last : Id) + 1) :
    ∀ y ∈ l ++ (l' ++ [x]), id y ≤ (last + 1 : Nat) := by
  intro y hy
  rw [← List.append_assoc, List.mem_append, List.mem_singleton] at hy
  rcases hy with hy | rfl
  · exact Int.le_trans (bound y hy) (Int.le_add_one (Int.le_refl _))
  · exact Int.le_of_eq next

namespace InStep

variable {books : Books} {mem : Memory} {d : Draft} {db : Database}

/-- The account that a commit would leave has what the draft adds to it. -/
theorem account (h : InStep books mem d db) {id : Id} {a : Account}
    (ha : books.account? id = some a) :
    (mem.commit d).books.account? id = some { a with balance := a.balance + d.deltas id } := by
  rw [Memory.account?_commit, h.books, ha, Option.map_some, Books.id_of_account? ha]

theorem hasAccount (h : InStep books mem d db) {id : Id} (known : (books.account? id).isSome) :
    db.HasAccount id := by
  obtain ⟨a, ha⟩ := Option.isSome_iff_exists.1 known
  obtain ⟨row, hrow, isIn⟩ := h.now.accounts id _ (h.account ha)
  refine List.any_eq_true.2 ⟨row, hrow, decide_eq_true (isIn.id.trans ?_)⟩
  exact congrArg Value.integer (Books.id_of_account? (h.account ha))

theorem nextTransferIsFree (h : InStep books mem d db) : db.NextIsFree .transfers :=
  nextIsFree_of_forall₂ (fun _ _ isIn => isIn.id) h.now.transfers
    fun t ht => h.lastTransfer ▸ h.transferIds t ht

theorem nextEntryIsFree (h : InStep books mem d db) : db.NextIsFree .entries :=
  nextIsFree_of_forall₂ (fun _ _ isIn => isIn.id) h.now.entries
    fun e he => h.lastEntry ▸ h.entryIds e he

/-- The account with an identifier has a row of its own. -/
theorem split (h : InStep books mem d db) {id : Id} {a : Account} (ha : books.account? id = some a) :
    ∃ before row after, db.rows .accounts = before ++ row :: after ∧
      { a with balance := a.balance + d.deltas id }.IsIn row ∧
      ∀ other ∈ before ++ after, other .id ≠ .integer id := by
  obtain ⟨row, hrow, isIn⟩ := h.now.accounts id _ (h.account ha)
  obtain ⟨before, after, rows⟩ := List.append_of_mem hrow
  refine ⟨before, row, after, rows, isIn, fun other hother same => ?_⟩
  have distinct := h.now.distinct
  have id : row .id = .integer id :=
    isIn.id.trans (congrArg Value.integer (Books.id_of_account? (h.account ha)))
  rw [rows, (List.perm_middle.map _).nodup_iff, List.map_cons, List.nodup_cons] at distinct
  exact distinct.1 (List.mem_map.2 ⟨other, hother, same.trans id.symm⟩)

/-! ### Writes on both ledgers -/

/-- The memory after a transfer was recorded, and the rows. -/
theorem recordTransfer (h : InStep books mem d db) (m : Movement) {row : Row}
    (isIn : (mem.createTransfer d m).2.2.IsIn row) :
    InStep books (mem.createTransfer d m).1 (mem.createTransfer d m).2.1
      ((db.takeSerial .transfers).setRows .transfers (db.rows .transfers ++ [row])) where
  books := h.books
  sound := h.sound
  now := by
    refine ⟨h.now.accounts, h.now.others, h.now.distinct, ?_, h.now.entries⟩
    change List.Forall₂ _ (mem.books.transfers ++ (d.transfers ++ [_])) (db.rows .transfers ++ [row])
    rw [← List.append_assoc]
    exact List.rel_append h.now.transfers (.cons isIn .nil)
  before := h.before
  lastTransfer := congrArg (· + 1) h.lastTransfer
  lastEntry := h.lastEntry
  transferIds := le_of_mem_append_next h.transferIds rfl
  entryIds := h.entryIds

/-- Both ledgers take an entry, one into the draft and one into the table. -/
theorem recordEntry (h : InStep books mem d db) (id : Id) (n : Int64) {row : Row}
    (isIn : (mem.createEntry d id n).2.2.IsIn row) :
    InStep books (mem.createEntry d id n).1 (mem.createEntry d id n).2.1
      ((db.takeSerial .entries).setRows .entries (db.rows .entries ++ [row])) where
  books := h.books
  sound := h.sound
  now := by
    refine ⟨h.now.accounts, h.now.others, h.now.distinct, h.now.transfers, ?_⟩
    change List.Forall₂ _ (mem.books.entries ++ (d.entries ++ [_])) (db.rows .entries ++ [row])
    rw [← List.append_assoc]
    exact List.rel_append h.now.entries (.cons isIn .nil)
  before := h.before
  lastTransfer := h.lastTransfer
  lastEntry := congrArg (· + 1) h.lastEntry
  transferIds := h.transferIds
  entryIds := le_of_mem_append_next h.entryIds rfl

/-- The balances after an addition to one of them, and the rows. -/
theorem add (h : InStep books mem d db) {id : Id} {a : Account} (ha : books.account? id = some a)
    {n sum : Int64} (hsum : Amount.add? a.balance n = some sum) {d' : Draft} (adds : Adds id n d d')
    {before after : List Row} {row : Row} (rows : db.rows .accounts = before ++ row :: after)
    (isIn : { a with balance := a.balance + d.deltas id }.IsIn row) :
    InStep books mem d' (db.setRows .accounts (before ++ withBalance sum row :: after)) where
  books := h.books
  sound := h.sound
  now := by
    have balance : a.balance + n = sum := (Amount.eq_add hsum).symm
    have own : a.id = id := Books.id_of_account? ha
    have deltas (i : Id) : d'.deltas i = if i = id then n else d.deltas i := congrFun adds.deltas i
    refine h.now.changeBalance rows isIn ?_ (fun i ne => ?_)
      (congrArg (mem.books.transfers ++ ·) adds.transfers)
      (congrArg (mem.books.entries ++ ·) adds.entries)
    · rw [Memory.account?_commit, h.books, own, ha, Option.map_some, own, deltas, if_pos rfl, balance]
    · rw [own] at ne
      rw [Memory.account?_commit, Memory.account?_commit]
      refine Option.map_congr fun b hb => ?_
      rw [Books.id_of_account? hb, deltas, if_neg ne]
  before := h.before
  lastTransfer := h.lastTransfer
  lastEntry := h.lastEntry
  transferIds t ht := by
    rw [Memory.commit, adds.transfers] at ht
    exact h.transferIds t ht
  entryIds e he := by
    rw [Memory.commit, adds.entries] at he
    exact h.entryIds e he

/-- Locks keep nobody out of step. -/
theorem lock (h : InStep books mem d db) (id : Id) : InStep books mem (d.lock id) db := by
  have same : (mem.commit (d.lock id)).books = (mem.commit d).books := by
    unfold Draft.lock
    split <;> rfl
  exact ⟨h.books, h.sound, same ▸ h.now, h.before, h.lastTransfer, h.lastEntry,
    same ▸ h.transferIds, same ▸ h.entryIds⟩

end InStep

/-! ### Units of work on both ledgers -/

/-- Two units of work, one for the memory and one for the database, that keep in step and come to the
same, where `post` says what that is, and what has become of the draft if they succeed. -/
def Twins (books : Books) (post : α → β → Draft → Prop) (x : Work α) (y : Work β) (mem : Memory)
    (d : Draft) (db : Database) : Prop :=
  (stored.perform y).Ensures (fun result' db' => ∃ result mem' d',
    (alone.perform x).run (mem, d) = (result, mem', d') ∧ InStep books mem' d' db' ∧
      Alike (fun a b => post a b d') result result') db

namespace Twins

variable {books : Books} {mem : Memory} {d : Draft} {db : Database}

/-- Twins in turn are twins. -/
theorem bind {post : α → β → Draft → Prop} {post' : γ → δ → Draft → Prop} {x : Work α} {y : Work β}
    {f : α → Work γ} {g : β → Work δ} (hx : Twins books post x y mem d db)
    (hf : ∀ a b mem' d' db', InStep books mem' d' db' → post a b d' →
      Twins books post' (f a) (g b) mem' d' db') :
    Twins books post' (x >>= f) (y >>= g) mem d db := by
  unfold Twins
  rw [perform_bind stored]
  refine Interaction.Ensures.bind hx fun result' db' h => ?_
  obtain ⟨result, mem', d', run, inStep, alike⟩ := h
  rw [perform_bind alone, run_bind_of_eq run]
  cases alike with
  | ok same => exact hf _ _ mem' d' db' inStep same
  | error same => exact ⟨_, mem', d', rfl, inStep, .error same⟩

theorem pure {post : α → β → Draft → Prop} (h : InStep books mem d db) {a : α} {b : β}
    (same : post a b d) : Twins books post (Pure.pure a) (Pure.pure b) mem d db :=
  ⟨_, mem, d, rfl, h, .ok same⟩

end Twins

section

variable {books : Books} {mem : Memory} {d : Draft} {db : Database}

/-- A transfer is recorded under the same number on both ledgers. -/
theorem twins_recordTransfer (h : InStep books mem d db) {m : Movement}
    (source : (books.account? m.source).isSome) (target : (books.account? m.target).isSome)
    (positive : 0 < m.amount.toInt) :
    Twins books (fun a b d' => a.undated = b.undated ∧ d'.deltas = d.deltas)
      (Work.recordTransfer m) (Work.recordTransfer m) mem d db := by
  unfold Twins
  rw [perform_recordTransfer]
  refine ensures_insertTransfer h.nextTransferIsFree (h.hasAccount source) (h.hasAccount target)
    positive fun row isIn now => ?_
  have serial : db.serials .transfers + 1 = (mem.lastTransfer : Id) + 1 :=
    congrArg (· + 1) h.lastTransfer
  rw [serial] at isIn ⊢
  exact ⟨_, _, _, rfl, h.recordTransfer m ⟨isIn.id, isIn.source, isIn.target, isIn.amount,
    isIn.createdAt⟩, .ok ⟨rfl, rfl⟩⟩

theorem twins_recordEntry (h : InStep books mem d db) {id : Id} (n : Int64)
    (known : (books.account? id).isSome) :
    Twins books (fun a b d' => a.undated = b.undated ∧ d'.deltas = d.deltas)
      (Work.recordEntry id n) (Work.recordEntry id n) mem d db := by
  unfold Twins
  rw [perform_recordEntry]
  refine ensures_insertEntry h.nextEntryIsFree (h.hasAccount known) fun row isIn now => ?_
  have serial : db.serials .entries + 1 = (mem.lastEntry : Id) + 1 :=
    congrArg (· + 1) h.lastEntry
  rw [serial] at isIn ⊢
  exact ⟨_, _, _, rfl, h.recordEntry id n ⟨isIn.id, isIn.account, isIn.amount, isIn.createdAt⟩,
    .ok ⟨rfl, rfl⟩⟩

/-- An addition is refused on both ledgers or shows the same account on both. -/
theorem twins_add (h : InStep books mem d db) {id : Id} (n : Int64)
    (known : (books.account? id).isSome) (untouched : d.deltas id = 0) :
    Twins books (fun a b d' => a.undated = b.undated ∧ Adds id n d d')
      (Work.add id n) (Work.add id n) mem d db := by
  unfold Twins
  rw [perform_add]
  obtain ⟨a, ha⟩ := Option.isSome_iff_exists.1 known
  obtain ⟨before, row, after, rows, isIn, others⟩ := h.split ha
  have own : a.id = id := Books.id_of_account? ha
  rw [untouched, Int64.add_zero] at isIn
  subst own
  have there : mem.books.account? a.id = some a := h.books ▸ ha
  refine ensures_addBalance rows isIn others (fun sum now hsum => ?_) fun hsum => ?_
  · obtain ⟨d', adds, run⟩ := alone_add h.sound untouched there hsum
    refine ⟨_, _, _, run, h.add ha hsum adds rows ?_, .ok ⟨rfl, adds⟩⟩
    rwa [untouched, Int64.add_zero]
  · exact ⟨_, _, _, alone_add_refused h.sound untouched there hsum, h.lock a.id, .error rfl⟩

/-- Both balances after a movement. -/
theorem twins_moveBalances (h : InStep books mem d db) {m : Movement}
    (source : (books.account? m.source).isSome) (target : (books.account? m.target).isSome)
    (untouched : d.deltas = fun _ => 0) :
    Twins books (fun a b _ => a.1.undated = b.1.undated ∧ a.2.undated = b.2.undated)
      (Work.moveBalances m) (Work.moveBalances m) mem d db := by
  have first (id : Id) : d.deltas id = 0 := congrFun untouched id
  unfold Work.moveBalances
  split
  · refine (twins_add h 0 source (first _)).bind fun a b _ d' _ h' same => ?_
    exact .pure h' ⟨same.1, same.1⟩
  · next ne =>
    split
    · refine (twins_add h (-m.amount) source (first _)).bind fun a b _ d' _ h' one => ?_
      have second := one.2.untouched untouched (Ne.symm ne)
      refine (twins_add h' m.amount target second).bind fun a' b' _ d'' _ h'' two => ?_
      exact .pure h'' ⟨one.1, two.1⟩
    · refine (twins_add h m.amount target (first _)).bind fun a b _ d' _ h' one => ?_
      have second := one.2.untouched untouched ne
      refine (twins_add h' (-m.amount) source second).bind fun a' b' _ d'' _ h'' two => ?_
      exact .pure h'' ⟨two.1, one.1⟩

/-- A transfer goes the same way on both ledgers, step by step. -/
theorem twins_transfer (h : InStep books mem d db) {m : Movement}
    (source : (books.account? m.source).isSome) (target : (books.account? m.target).isSome)
    (positive : 0 < m.amount.toInt) (untouched : d.deltas = fun _ => 0) :
    Twins books (fun r r' _ => r.undated = r'.undated) (Work.transfer m) (Work.transfer m) mem d db := by
  unfold Work.transfer
  refine (twins_recordTransfer h source target positive).bind fun t t' _ d₁ _ h₁ transfer => ?_
  refine (twins_recordEntry h₁ _ source).bind fun e e' _ d₂ _ h₂ debit => ?_
  refine (twins_recordEntry h₂ _ target).bind fun c c' _ d₃ _ h₃ credit => ?_
  have clean : d₃.deltas = fun _ => 0 :=
    credit.2.trans (debit.2.trans (transfer.2.trans untouched))
  refine (twins_moveBalances h₃ source target clean).bind fun p p' _ d₄ _ h₄ balances => ?_
  refine .pure h₄ ?_
  simp only [Receipt.undated, transfer.1, debit.1, credit.1, balances.1, balances.2]

end

/-! ### Calls -/

/-- Between two calls: a memory without planted failures and a database, with the same accounts,
transfers, entries and numbers. -/
structure AtRest (mem : Memory) (db : Database) : Prop where
  sound : mem.faults = []
  agree : Agree mem.books db.rows
  lastTransfer : db.serials .transfers = mem.lastTransfer
  lastEntry : db.serials .entries = mem.lastEntry
  transferIds : ∀ t ∈ mem.books.transfers, t.id ≤ mem.lastTransfer
  entryIds : ∀ e ∈ mem.books.entries, e.id ≤ mem.lastEntry

theorem AtRest.begin {mem : Memory} {db : Database} (h : AtRest mem db) :
    InStep mem.books mem .empty { db with saved := some db.rows } := by
  have transfers : (mem.commit .empty).books.transfers = mem.books.transfers := List.append_nil _
  have entries : (mem.commit .empty).books.entries = mem.books.entries := List.append_nil _
  exact ⟨rfl, h.sound, agree_commit_empty.2 h.agree, ⟨_, rfl, h.agree⟩, h.lastTransfer, h.lastEntry,
    transfers.symm ▸ h.transferIds, entries.symm ▸ h.entryIds⟩

/-- After a commit both ledgers are at rest with the same rows. -/
theorem InStep.commit {books : Books} {mem : Memory} {d : Draft} {db : Database}
    (h : InStep books mem d db) : AtRest (mem.commit d) { db with saved := none } :=
  ⟨h.sound, h.now, h.lastTransfer, h.lastEntry, h.transferIds, h.entryIds⟩

theorem rollback_of_no_faults {mem : Memory} (sound : mem.faults = []) :
    mem.rollback = ({ mem with rollbacks := mem.rollbacks + 1 }, .ok ()) := by
  rw [Memory.rollback, Memory.trip?_of_no_faults sound]

/-- After a rollback both ledgers are at rest with the rows from before. -/
theorem InStep.rollback {books : Books} {mem : Memory} {d : Draft} {db : Database}
    (h : InStep books mem d db) :
    AtRest mem.rollback.1 { db with rows := db.saved.getD db.rows, saved := none } := by
  obtain ⟨rows, saved, agree⟩ := h.before
  rw [rollback_of_no_faults h.sound, saved]
  exact ⟨h.sound, agree, h.lastTransfer, h.lastEntry,
    fun t ht => h.transferIds t (List.mem_append_left _ ht),
    fun e he => h.entryIds e (List.mem_append_left _ he)⟩

/-- Both sides of a movement are there, and something is moved. -/
structure Movement.Possible (books : Books) (m : Movement) : Prop where
  source : (books.account? m.source).isSome
  target : (books.account? m.target).isSome
  positive : 1 ≤ m.amount.toInt

/-- A call comes to the same on both ledgers, and leaves them at rest with the accounts they had. -/
theorem ensures_call {mem : Memory} {db : Database} (h : AtRest mem db) {m : Movement}
    (possible : m.Possible mem.books) :
    (storedTransfer m).Ensures (fun result db' =>
      Alike (fun r r' => r.undated = r'.undated) (mem.carryOut (Work.transfer m)).2 result ∧
        AtRest (mem.carryOut (Work.transfer m)).1 db' ∧
        ∀ id, ((mem.carryOut (Work.transfer m)).1.books.account? id).isSome =
          (mem.books.account? id).isSome) db := by
  have twins := twins_transfer h.begin possible.source possible.target possible.positive rfl
  change Interaction.Ensures _ (stored.perform (Work.transfer m) >>= _) { db with saved := some db.rows }
  refine Interaction.Ensures.bind twins fun result' db' same => ?_
  obtain ⟨result, mem', d', run, inStep, alike⟩ := same
  have untripped := Memory.trip?_of_no_faults h.sound .start
  rw [carryOut_of_started untripped run]
  cases alike with
  | ok same =>
    refine ⟨.ok same, inStep.commit, fun id => ?_⟩
    rw [← inStep.books]
    exact (congrArg Option.isSome (Memory.account?_commit mem' d' id)).trans Option.isSome_map
  | error same =>
    have ended := rollback_of_no_faults inStep.sound
    refine ⟨.error ?_, inStep.rollback, fun id => ?_⟩
    · rw [ended]
      exact same
    · rw [Memory.conclude, Memory.books_rollback, inStep.books]

/-- Calls one after the other. -/
theorem ensures_calls {mem : Memory} {db : Database} (h : AtRest mem db) {calls : List Movement}
    (possible : ∀ m ∈ calls, m.Possible mem.books) :
    (calls.mapM storedTransfer).Ensures (fun results db' =>
      List.Forall₂ (Alike fun r r' => r.undated = r'.undated)
        (mem.inTurn (calls.map Work.transfer)).2 results ∧
      AtRest (mem.inTurn (calls.map Work.transfer)).1 db') db := by
  induction calls generalizing mem db with
  | nil => exact ⟨.nil, h⟩
  | cons m calls ih =>
    rw [List.mapM_cons]
    refine (ensures_call h (possible m List.mem_cons_self)).bind fun result db₁ first => ?_
    obtain ⟨alike, rest, same⟩ := first
    have still : ∀ m' ∈ calls, m'.Possible (mem.carryOut (Work.transfer m)).1.books := by
      intro m' hm'
      have possible' := possible m' (List.mem_cons_of_mem m hm')
      exact ⟨(same _).trans possible'.source, (same _).trans possible'.target, possible'.positive⟩
    refine (ih rest still).bind fun results db₂ later => ?_
    exact ⟨.cons alike later.1, later.2⟩

/-! ### From the beginning -/

/-- A memory and a database with the same accounts, where nothing was transferred yet and no number
given. -/
structure Fresh (mem : Memory) (db : Database) : Prop where
  sound : mem.faults = []
  agree : Agree mem.books db.rows
  nothing : mem.books.transfers = [] ∧ mem.books.entries = []
  numbers : mem.lastTransfer = 0 ∧ mem.lastEntry = 0
  serials : db.serials .transfers = 0 ∧ db.serials .entries = 0

theorem Fresh.atRest {mem : Memory} {db : Database} (h : Fresh mem db) : AtRest mem db where
  sound := h.sound
  agree := h.agree
  lastTransfer := by rw [h.serials.1, h.numbers.1]; rfl
  lastEntry := by rw [h.serials.2, h.numbers.2]; rfl
  transferIds t ht := by
    rw [h.nothing.1] at ht
    cases ht
  entryIds e he := by
    rw [h.nothing.2] at he
    cases he

/-- A ledger in memory and a database begin with the same accounts. Whatever is transferred then
between these, one call after the other: each call comes to the same on both, to a receipt with the
same numbers, accounts and entries or to an error of which clients are told the same; and after each
call balances, transfers and entries are the same. -/
theorem ledgers_agree (mem : Memory) (w : World Database) (fresh : Fresh mem w.database)
    (calls : List Movement) (possible : ∀ m ∈ calls, m.Possible mem.books) :
    (∃ results, (w.perform (calls.mapM storedTransfer)).1 = some results ∧
      List.Forall₂ (Alike fun r r' => r.undated = r'.undated)
        (mem.inTurn (calls.map Work.transfer)).2 results) ∧
    ∀ n, Agree (mem.inTurn ((calls.take n).map Work.transfer)).1.books
      (w.perform ((calls.take n).mapM storedTransfer)).2.database.rows := by
  constructor
  · obtain ⟨results, ended, alike, -⟩ := (ensures_calls fresh.atRest possible).perform
    exact ⟨results, ended, alike⟩
  · intro n
    have some_possible : ∀ m ∈ calls.take n, m.Possible mem.books :=
      fun m hm => possible m (List.mem_of_mem_take hm)
    obtain ⟨results, -, -, rest⟩ := (ensures_calls fresh.atRest some_possible).perform
    exact rest.agree

/-- Any accounts with identifiers of their own can be the beginning. -/
theorem fresh_holding {mem : Memory} (sound : mem.faults = [])
    (nothing : mem.books.transfers = [] ∧ mem.books.entries = [])
    (numbers : mem.lastTransfer = 0 ∧ mem.lastEntry = 0)
    (distinct : (mem.books.accounts.map Account.id).Nodup) :
    Fresh mem (Database.holding mem.books.accounts) where
  sound := sound
  nothing := nothing
  numbers := numbers
  serials := ⟨rfl, rfl⟩
  agree := by
    have ids : ((mem.books.accounts.map Account.row).map fun row => row .id) =
        (mem.books.accounts.map Account.id).map Value.integer := by
      rw [List.map_map, List.map_map]
      rfl
    refine ⟨fun id a ha => ?_, fun v hv => ?_, ?_, ?_, ?_⟩
    · exact ⟨a.row, List.mem_map.2 ⟨a, List.mem_of_find?_eq_some ha, rfl⟩, a.isIn_row⟩
    · obtain ⟨row, hrow, rfl⟩ := List.mem_map.1 hv
      obtain ⟨a, ha, rfl⟩ := List.mem_map.1 hrow
      exact ⟨a.id, rfl, List.find?_isSome.2 ⟨a, ha, decide_eq_true rfl⟩⟩
    · exact ids ▸ List.Nodup.map (fun _ _ => Value.integer.inj) distinct
    · rw [nothing.1]
      exact .nil
    · rw [nothing.2]
      exact .nil

/-- Bob has almost as much as there can be. -/
def almostFull : Memory :=
  ((Memory.empty .epoch).insertAccount "ada" "USD" 100).insertAccount "bob" "USD"
    9223372036854775797

/-- The first of three calls takes its money from Ada, and cannot give it to Bob. -/
def overflowing : List Movement := [⟨1, 2, 30⟩, ⟨2, 1, 5⟩, ⟨1, 1, 7⟩]

theorem ledgers_agree_overflowing :
    let w : World Database := ⟨.holding almostFull.books.accounts, .epoch, .epoch, ⟨0⟩, 0, 0⟩
    Fresh almostFull w.database ∧ (∀ m ∈ overflowing, m.Possible almostFull.books) ∧
    (almostFull.inTurn (overflowing.map Work.transfer)).2.map (Except.map fun r => r.transfer.id) =
      [.error Memory.outOfRange, .ok 2, .ok 3] ∧
    (∃ results, (w.perform (overflowing.mapM storedTransfer)).1 = some results ∧
      List.Forall₂ (Alike fun r r' => r.undated = r'.undated)
        (almostFull.inTurn (overflowing.map Work.transfer)).2 results) ∧
    Agree (almostFull.inTurn (overflowing.map Work.transfer)).1.books
      (w.perform (overflowing.mapM storedTransfer)).2.database.rows := by
  intro w
  have fresh : Fresh almostFull w.database :=
    fresh_holding rfl ⟨rfl, rfl⟩ ⟨rfl, rfl⟩ (by decide)
  have possible : ∀ m ∈ overflowing, m.Possible almostFull.books := by
    simp only [overflowing, List.forall_mem_cons]
    exact ⟨⟨by decide, by decide, by decide⟩, ⟨by decide, by decide, by decide⟩,
      ⟨by decide, by decide, by decide⟩, List.forall_mem_nil _⟩
  have made : ((almostFull.inTurn (overflowing.map Work.transfer)).2.map
      (Except.map fun r => r.transfer.id)) = [.error Memory.outOfRange, .ok 2, .ok 3] := by
    decide +kernel
  have whole : overflowing.take 3 = overflowing := rfl
  obtain ⟨results, after⟩ := ledgers_agree almostFull w fresh overflowing possible
  have last := after 3
  rw [whole] at last
  exact ⟨fresh, possible, made, results, last⟩

end Ledger

end Teller
