import Teller.Proofs.Ledger.Alone
import Teller.Proofs.Ledger.Moves

/-!
# One process after the other

A unit of work that has the memory to itself is a process that nobody disturbs: it waits for no row,
and its steps come to the same end. So units of work that are carried out one after the other are
one of the runs that processes side by side can take.
-/

namespace Teller.Ledger

variable {α : Type} {mem : Memory}

/-! ### A process that nobody disturbs -/

/-- The others hold no row. -/
def Undisturbed (ps : List (Process α)) (i : Nat) : Prop :=
  i < ps.length ∧ ∀ j q, j ≠ i → ps[j]? = some q → q.held = []

section Undisturbed

variable {ps : List (Process α)} {i : Nat}

theorem Undisturbed.isFree (h : Undisturbed ps i) (p : Process α) (id : Id) :
    State.isFree ⟨mem, ps.set i p⟩ id = !p.held.contains id := by
  rw [Bool.eq_iff_iff, State.isFree, List.all_eq_true]
  constructor
  · exact fun free => free p (List.mem_of_getElem? (List.getElem?_set_self h.1))
  · intro free q hq
    obtain ⟨j, hj⟩ := List.mem_iff_getElem?.1 hq
    by_cases ne : i = j
    · subst ne
      rw [List.getElem?_set_self h.1, Option.some.injEq] at hj
      exact hj ▸ free
    · rw [List.getElem?_set_ne ne] at hj
      rw [h.2 j q (Ne.symm ne) hj]
      rfl

/-- The process takes steps until it is `p'`. -/
def Comes (ps : List (Process α)) (i : Nat) (mem : Memory) (p : Process α) (mem' : Memory)
    (p' : Process α) : Prop :=
  ∃ n, State.run? ⟨mem, ps.set i p⟩ (List.replicate n (.advance i)) = some ⟨mem', ps.set i p'⟩

theorem Comes.refl (mem : Memory) (p : Process α) : Comes ps i mem p mem p := ⟨0, rfl⟩

theorem Comes.step (h : Undisturbed ps i) {mem₁ mem₂ : Memory} {p p₁ p₂ : Process α}
    (first : p.advance? (fun id => !p.held.contains id) mem = some (mem₁, p₁))
    (rest : Comes ps i mem₁ p₁ mem₂ p₂) : Comes ps i mem p mem₂ p₂ := by
  obtain ⟨n, hn⟩ := rest
  refine ⟨n + 1, ?_⟩
  have free : State.isFree ⟨mem, ps.set i p⟩ = fun id => !p.held.contains id :=
    funext fun id => h.isFree p id
  rw [List.replicate_succ, State.run?, State.step?, State.advance?, free]
  simp only [List.getElem?_set_self h.1, Option.bind_eq_bind, Option.bind_some, first,
    List.set_set]
  exact hn

/-- An addition takes two steps or three, with the answer that it has alone. -/
theorem Comes.addBalance (h : Undisturbed ps i) {d : Draft} {id : Id} {n : Int64}
    {next : Except Store.Error Account → Work α} {mem₂ : Memory} {p₂ : Process α} :
    let reply := (alone.addBalance id n).run (mem, d)
    Comes ps i reply.2.1 (.active reply.2.2 (next reply.1)) mem₂ p₂ →
      Comes ps i mem (.active d (.addBalance id n next)) mem₂ p₂ := by
  intro reply rest
  -- The ways of an addition. Where nobody disturbs the process, it gets its lock at once.
  cases tripped : mem.trip? (.balance id) with
  | some mem' =>
    have failed : reply = (.error (Memory.refused s!"injected failure on account {id}"), mem', d) := by
      simp only [reply, alone, StateT.run, tripped]
    rw [failed] at rest
    refine .step h ?_ rest
    simp only [Process.advance?, tripped]
  | none =>
    by_cases unknown : (mem.books.account? id).isNone
    · have absent : reply = (.error (.database .rowNotFound), mem, d) := by
        simp only [reply, alone, StateT.run, tripped, if_pos unknown]
      rw [absent] at rest
      refine .step h ?_ rest
      simp only [Process.advance?, tripped, if_pos unknown]
    · have answered : reply = ((mem.addBalance (d.lock id) id n).2, mem,
          (mem.addBalance (d.lock id) id n).1) := by
        simp only [reply, alone, StateT.run, tripped, if_neg unknown]
      rw [answered] at rest
      have adding : Comes ps i mem (.updating (d.lock id) id n next) mem₂ p₂ := .step h rfl rest
      by_cases locked : id ∈ d.held
      · rw [Draft.lock, if_pos locked] at adding
        refine .step h ?_ adding
        simp only [Process.advance?, tripped, if_neg unknown, if_pos locked]
      · rw [Draft.lock, if_neg locked] at adding
        have free : (!(Process.locking d id n next).held.contains id) = true := by
          simpa [Process.held, Process.draft?] using locked
        have waiting : Comes ps i mem (.locking d id n next) mem₂ p₂ :=
          .step h (by simp only [Process.advance?, free, if_true]) adding
        refine .step h ?_ waiting
        simp only [Process.advance?, tripped, if_neg unknown, if_neg locked]

theorem comes_concluded (h : Undisturbed ps i) (work : Work α) (mem : Memory) (d : Draft) :
    let reply := (alone.perform work).run (mem, d)
    let ending := reply.2.1.conclude reply.2.2 reply.1
    Comes ps i mem (.active d work) ending.1 (.finished ending.2) := by
  induction work generalizing mem d with
  | done result =>
    cases result with
    | ok x => exact .step h rfl (.refl _ _)
    | error e => exact .step h rfl (.refl _ _)
  | createTransfer m next ih => exact .step h rfl (ih _ _ _)
  | createEntry id n next ih => exact .step h rfl (ih _ _ _)
  | addBalance id n next ih => exact .addBalance h (ih _ _ _)

/-- A process that nobody disturbs carries its unit of work out as one that has the memory to
itself. -/
theorem comes_carryOut (h : Undisturbed ps i) (work : Work α) (mem : Memory) :
    Comes ps i mem (.ready work) (mem.carryOut work).1 (.finished (mem.carryOut work).2) := by
  cases start : mem.trip? .start with
  | some mem' =>
    rw [carryOut_of_refused work start]
    refine .step h ?_ (.refl _ _)
    simp only [Process.advance?, start]
  | none =>
    rw [carryOut_of_started start rfl]
    refine .step h ?_ (comes_concluded h work mem .empty)
    simp only [Process.advance?, start]

end Undisturbed

/-! ### Blocks of steps -/

theorem run?_append (es es' : List (Event α)) (s : State α) :
    s.run? (es ++ es') = (s.run? es).bind fun mid => mid.run? es' := by
  induction es generalizing s with
  | nil => rfl
  | cons e es ih =>
    rw [List.cons_append, State.run?, State.run?]
    cases s.step? e with
    | none => rfl
    | some mid => exact ih mid

/-- Steps of the processes from `first` on, each process for as many steps as `turns` gives it. -/
def inBlocks (first : Nat) : List Nat → List (Event α)
  | [] => []
  | n :: turns => List.replicate n (.advance first) ++ inBlocks (first + 1) turns

theorem exists_inBlocks (works : List (Work α)) (mem : Memory)
    (results : List (Except Store.Error α)) :
    ∃ turns, turns.length = works.length ∧
      State.run? ⟨mem, results.map .finished ++ works.map .ready⟩ (inBlocks results.length turns) =
        some ⟨(mem.inTurn works).1, (results ++ (mem.inTurn works).2).map .finished⟩ := by
  induction works generalizing mem results with
  | nil => exact ⟨[], rfl, by rw [List.map_nil, List.append_nil, Memory.inTurn, List.append_nil]; rfl⟩
  | cons work works ih =>
    let ps : List (Process α) := results.map .finished ++ (work :: works).map .ready
    have lt : results.length < ps.length := by simp [ps]
    have quiet : Undisturbed ps results.length := by
      refine ⟨lt, fun j q _ hq => ?_⟩
      rcases List.mem_append.1 (List.mem_of_getElem? hq) with hq | hq
      · obtain ⟨_, -, rfl⟩ := List.mem_map.1 hq
        rfl
      · obtain ⟨_, -, rfl⟩ := List.mem_map.1 hq
        rfl
    have set (p : Process α) : ps.set results.length p = results.map .finished ++ p :: works.map .ready := by
      simp [ps]
    obtain ⟨n, hn⟩ := comes_carryOut quiet work mem
    obtain ⟨turns, len, rest⟩ := ih (mem.carryOut work).1 (results ++ [(mem.carryOut work).2])
    refine ⟨n :: turns, by rw [List.length_cons, len, List.length_cons], ?_⟩
    rw [set, set] at hn
    rw [List.length_append, List.length_singleton, List.map_append, List.append_assoc,
      List.append_assoc] at rest
    rw [inBlocks, run?_append, List.map_cons, hn, Option.bind_some]
    exact rest

/-- Units of work that are carried out one after the other are a run of processes, each of which
goes from its beginning to its end before the next one begins. -/
theorem inTurn_is_run (mem : Memory) (works : List (Work α)) :
    ∃ turns, turns.length = works.length ∧
      State.run? ⟨mem, works.map .ready⟩ (inBlocks 0 turns) =
        some ⟨(mem.inTurn works).1, (mem.inTurn works).2.map .finished⟩ :=
  exists_inBlocks works mem []

end Teller.Ledger
