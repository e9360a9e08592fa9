import Teller.Proofs.Ledger.Transfer

/-!
# Calls of transfers

Any number of transfers that are called at once, before any of them begins. As long as no other unit
of work is started, each call keeps to the locks, whatever else happens, and settles its movement if
it commits.
-/

namespace Teller.Ledger

/-- Calls of transfers that have not begun. -/
def State.ofCalls (mem : Memory) (calls : List Movement) : State Receipt :=
  ⟨mem, calls.map fun m => .ready (Work.transfer m)⟩

/-- A memory with accounts that were opened with these balances. -/
def Memory.holding (balances : List Int64) : Memory :=
  balances.foldl (fun mem balance => mem.insertAccount "ada" "USD" balance)
    (.empty ⟨0, by decide, by decide⟩)

/-- Whether an event starts another unit of work. -/
def Event.isSpawn {α : Type} : Event α → Bool
  | .spawn _ => true
  | _ => false

/-- Every call keeps to the locks, and settles its movement if it commits. -/
structure Underway (calls : List Movement) (s : State Receipt) : Prop where
  disciplined : s.Disciplined
  length : s.processes.length = calls.length
  assured : ∀ (i : Nat) (p : Process Receipt), s.processes[i]? = some p →
    ∀ m, calls[i]? = some m → p.Assured (fun mem => Settles mem m) s.memory

namespace Underway

variable {calls : List Movement} {s s' : State Receipt} {e : Event Receipt}

theorem ofCalls (mem : Memory) (calls : List Movement) :
    Underway calls (State.ofCalls mem calls) where
  disciplined := by
    refine .of_ready fun p hp => ?_
    obtain ⟨m, -, rfl⟩ := List.mem_map.1 hp
    exact ⟨_, rfl⟩
  length := List.length_map _
  assured i p hp m hm := by
    rw [State.ofCalls, List.getElem?_map, hm, Option.map_some, Option.some.injEq] at hp
    subst hp
    exact fun mem => transfer_settles mem m

theorem length_step (closed : e.isSpawn = false) (h : s.step? e = some s') :
    s'.processes.length = s.processes.length := by
  cases e with
  | spawn => cases closed
  | advance i =>
    obtain ⟨p, mem', p', -, -, rfl⟩ := State.advance?_eq_some h
    exact List.length_set
  | cut i =>
    obtain ⟨p, -, -, rfl⟩ := State.cut?_eq_some h
    exact List.length_set
  | insertAccount owner currency balance => cases h; rfl
  | plant f => cases h; rfl
  | setClock t => cases h; rfl

theorem step (hs : Underway calls s) (closed : e.isSpawn = false) (h : s.step? e = some s') :
    Underway calls s' where
  disciplined := hs.disciplined.step h
  length := (length_step closed h).trans hs.length
  assured := by
    have stable (i : Nat) : Stable fun mem (p : Process Receipt) =>
        ∀ m, calls[i]? = some m → p.Assured (fun mem => Settles mem m) mem :=
      ⟨fun hp move h m hm => Process.stable_assured.moved hp move (h m hm),
        fun respects h m hm => Process.stable_assured.respects respects (h m hm),
        fun _ _ _ => trivial⟩
    refine hs.disciplined.keeps stable hs.assured (fun work event => ?_) h
    rw [event] at closed
    cases closed

/-- A call that is about to commit has settled its movement, on the books it commits to. -/
theorem settles (hs : Underway calls s) {i : Nat} {d : Draft} {r : Receipt}
    (hp : s.processes[i]? = some (.active d (.done (.ok r)))) :
    ∃ m, calls[i]? = some m ∧ Settles s.memory m d r := by
  obtain ⟨lt, -⟩ := List.getElem?_eq_some_iff.1 hp
  rw [hs.length] at lt
  have hm := List.getElem?_eq_getElem lt
  exact ⟨_, hm, (hs.assured i _ hp _ hm).of_done⟩

end Underway

end Teller.Ledger
