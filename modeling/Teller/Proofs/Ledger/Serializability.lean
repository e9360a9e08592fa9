import Mathlib.Data.List.Forall2
import Teller.Proofs.Ledger.Calls
import Teller.Proofs.Ledger.Commits
import Teller.Proofs.Ledger.InTurn

/-!
# Concurrent transfers are serializable

Transfers that run side by side, with failures planted and calls cut off, leave the balances that
the committed ones among them leave if they are made one after the other, in the order in which they
committed. No update is lost, and every caller is told what it would have been told then.
-/

namespace Teller.Ledger

/-- Events that open no accounts and start no calls: steps, cuts, planted failures and time. -/
def Event.isInner {α : Type} : Event α → Bool
  | .advance _ | .cut _ | .plant _ | .setClock _ => true
  | .spawn _ | .insertAccount .. => false

theorem Event.isSpawn_of_isInner {α : Type} {e : Event α} (h : e.isInner = true) :
    e.isSpawn = false := by
  cases e <;> first | rfl | cases h

/-- The transfers of these calls, one after the other. -/
def Memory.serially (mem : Memory) (calls : List Movement) (order : List Nat) :
    Memory × List (Except Store.Error Receipt) :=
  mem.inTurn ((order.filterMap fun i => calls[i]?).map Work.transfer)

/-- What a caller was told is what it is told when the transfers are made one after the other. -/
def Told (s : State Receipt) (i : Nat) (result : Except Store.Error Receipt) : Prop :=
  ∃ r r', s.Succeeded i r ∧ result = .ok r' ∧ r'.source = r.source ∧ r'.target = r.target

theorem Memory.moved?_congr {mem mem' : Memory} (h : mem'.books.accounts = mem.books.accounts)
    (m : Movement) (id : Id) : mem'.moved? m id = mem.moved? m id := by
  rw [moved?, moved?, Books.account?, Books.account?, h]

theorem serially_cons {calls : List Movement} {i : Nat} {m : Movement} (hm : calls[i]? = some m)
    (mem : Memory) (order : List Nat) :
    mem.serially calls (i :: order) =
      (((mem.carryOut (Work.transfer m)).1.serially calls order).1,
        (mem.carryOut (Work.transfer m)).2 ::
          ((mem.carryOut (Work.transfer m)).1.serially calls order).2) := by
  rw [Memory.serially, List.filterMap_cons_some hm]
  rfl

/-- From any state on, the commits still to come have on equal balances the same effect one after
the other. -/
theorem Underway.serial {calls : List Movement} {es : List (Event Receipt)}
    (inner : ∀ e ∈ es, e.isInner = true) {s s' : State Receipt} (hs : Underway calls s)
    (h : s.run? es = some s') (mem : Memory) (sound : mem.faults = [])
    (same : mem.books.accounts = s.memory.books.accounts) :
    (mem.serially calls (s.commitOrder es)).1.books.accounts = s'.memory.books.accounts ∧
      List.Forall₂ (Told s') (s.commitOrder es) (mem.serially calls (s.commitOrder es)).2 := by
  induction es generalizing s mem with
  | nil => cases h; exact ⟨same, .nil⟩
  | cons e es ih =>
    obtain ⟨mid, hmid, hrest⟩ := Option.bind_eq_some_iff.1 h
    have innerE := inner e List.mem_cons_self
    have inner' := fun e' he' => inner e' (List.mem_cons_of_mem e he')
    have hmid' := hs.step (Event.isSpawn_of_isInner innerE) hmid
    rw [State.commitOrder_cons hmid]
    cases State.effect hmid with
    | @commit i d r before event =>
      -- The transfer that commits here is the next one of those made one after the other.
      obtain ⟨m, hm, settles⟩ := hs.settles before
      obtain ⟨next, r', done, sound', after, source, target⟩ := carryOut_transfer sound
        ((Memory.moved?_congr same m m.source).trans settles.source)
        ((Memory.moved?_congr same m m.target).trans settles.target)
      have same' : next.books.accounts = (s.memory.commit d).books.accounts := by
        rw [after, Books.afterMovement, same, Memory.commit, settles.deltas]
      obtain ⟨balances, told⟩ := ih inner' hmid' hrest next sound' same'
      have first : State.Succeeded ⟨s.memory.commit d, s.processes.set i (.finished (.ok r))⟩ i r :=
        getElem?_set_of_some before _
      rw [event, Option.toList_some, List.singleton_append, serially_cons hm, done]
      exact ⟨balances, .cons ⟨r, r', first.run hrest, rfl, source, target⟩ told⟩
    | opening event => rw [event] at innerE; cases innerE
    | quiet books _ event =>
      rw [event]
      exact ih inner' hmid' hrest mem sound (by rw [books]; exact same)

/-- Transfers that ran side by side leave the balances that those of them that succeeded leave one
after the other, in the order of their commits and without failures; each of these succeeds, and is
told the same of its two accounts. -/
theorem transfers_serializable (mem : Memory) (calls : List Movement) (es : List (Event Receipt))
    (s : State Receipt) (inner : ∀ e ∈ es, e.isInner = true)
    (h : (State.ofCalls mem calls).run? es = some s) :
    let order := (State.ofCalls mem calls).commitOrder es
    let committed := order.filterMap fun i => calls[i]?
    (order.Nodup ∧ ∀ i, i ∈ order ↔ ∃ r, s.Succeeded i r) ∧
      ∃ turns serial, turns.length = order.length ∧
        (State.ofCalls { mem with faults := [] } committed).run? (inBlocks 0 turns) = some serial ∧
        serial.memory.books.accounts = s.memory.books.accounts ∧
        ∀ k i, order[k]? = some i → ∃ r r', s.Succeeded i r ∧ serial.Succeeded k r' ∧
          r'.source = r.source ∧ r'.target = r.target := by
  intro order committed
  have fresh (i : Nat) : ¬∃ r, (State.ofCalls mem calls).Succeeded i r := by
    rintro ⟨r, hr⟩
    rw [State.Succeeded, State.ofCalls, List.getElem?_map] at hr
    obtain ⟨m, -, hm⟩ := Option.map_eq_some_iff.1 hr
    cases hm
  refine ⟨⟨State.nodup_commitOrder h, fun i => ?_⟩, ?_⟩
  · rw [State.mem_commitOrder_iff h]
    exact and_iff_left (fresh i)
  let base : Memory := { mem with faults := [] }
  obtain ⟨balances, told⟩ := (Underway.ofCalls mem calls).serial inner h base rfl rfl
  obtain ⟨turns, len, run⟩ := inTurn_is_run base (committed.map Work.transfer)
  have calls' : (committed.map Work.transfer).map Process.ready =
      committed.map fun m => .ready (Work.transfer m) := List.map_map
  rw [calls'] at run
  refine ⟨turns, _, ?_, run, balances, fun k i hk => ?_⟩
  · -- Every result of the one comes from a commit of the other.
    exact len.trans ((length_inTurn base _).symm.trans told.length_eq.symm)
  · obtain ⟨lt, rfl⟩ := List.getElem?_eq_some_iff.1 hk
    have lt' := told.length_eq ▸ lt
    obtain ⟨r, r', hr, hr', source, target⟩ := told.get lt lt'
    have result : (base.serially calls order).2[k]? = some (.ok r') := by
      rw [List.getElem?_eq_getElem lt']
      exact congrArg some hr'
    refine ⟨r, r', hr, ?_, source, target⟩
    change ((base.serially calls order).2.map Process.finished)[k]? = some (.finished (.ok r'))
    rw [List.getElem?_map, result]
    rfl

/-- Two accounts that pay each other, and a call that is to be cut off. -/
def crossing : List Movement := [⟨1, 2, 50⟩, ⟨2, 1, 30⟩, ⟨1, 2, 5⟩]

/-- The second and the third call reach for a row that the first one has locked. -/
def crossed : List (Event Receipt) :=
  List.replicate 6 (.advance 0) ++ List.replicate 5 (.advance 1) ++ List.replicate 5 (.advance 2) ++
    .cut 2 :: List.replicate 5 (.advance 0) ++ List.replicate 6 (.advance 1)

theorem crossing_serializable : ∃ s turns serial,
    (State.ofCalls (.holding [100, 100]) crossing).run? crossed = some s ∧
    (State.ofCalls (.holding [100, 100]) [⟨1, 2, 50⟩, ⟨2, 1, 30⟩]).run? (inBlocks 0 turns) = some serial ∧
    serial.memory.books.accounts = s.memory.books.accounts ∧
    ∃ r r', s.Succeeded 1 r ∧ serial.Succeeded 1 r' ∧ r'.source = r.source := by
  have goes : ((State.ofCalls (.holding [100, 100]) crossing).run? crossed).isSome = true := by decide
  obtain ⟨s, hs⟩ := Option.isSome_iff_exists.1 goes
  have order : (State.ofCalls (.holding [100, 100]) crossing).commitOrder crossed = [0, 1] := by decide
  obtain ⟨-, turns, serial, -, run, balances, told⟩ :=
    transfers_serializable (.holding [100, 100]) crossing crossed s (by decide) hs
  obtain ⟨r, r', hr, hr', source, -⟩ := told 1 1 (by rw [order]; rfl)
  rw [order] at run
  exact ⟨s, turns, serial, hs, run, balances, r, r', hr, hr', source⟩

end Teller.Ledger
