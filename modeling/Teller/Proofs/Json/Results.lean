import Teller.Json.Record
import Teller.Proofs.Json.Reading

/-!
# What a reader can give

Whatever the text, a reader gives values of some kind only, or nothing. This follows from its parts:
the last part says what is given, of values that the parts before it give. A record is given as it is
completed from a draft, and a draft keeps what every slot keeps.
-/

namespace Teller.Json.Reader

variable {α β σ : Type} {input rest : List UInt8} {r : Reader α} {f : α → Reader β}

/-! ### From the value back -/

theorem yields_bind_iff {y : β} : (r >>= f).Yields input y rest ↔
    ∃ x mid, r.Yields input x mid ∧ (f x).Yields mid y rest := by
  constructor
  · intro h
    unfold Yields at *
    rw [ExceptT.run_bind, StateT.run_bind] at h
    rcases read : r.run.run input with ⟨_ | x, mid⟩
    · rw [read] at h
      cases h
    · rw [read] at h
      exact ⟨x, mid, rfl, h⟩
  · rintro ⟨x, mid, first, second⟩
    exact first.bind second

theorem Yields.of_inside {place : Place} {x : α}
    (h : (Reader.inside place r).Yields input x rest) : r.Yields input x rest := by
  unfold Yields Reader.inside at *
  rw [ExceptT.run_tryCatch, StateT.run_bind] at h
  rcases read : r.run.run input with ⟨_ | y, mid⟩
  · rw [read] at h
    cases h
  · rw [read] at h
    exact h

theorem all_eq_ok_iff {x : α} :
    r.all input = .ok x ↔ ∃ mid rest, r.Yields input x mid ∧ finish.Yields mid () rest := by
  constructor
  · intro h
    have read : (do let x ← r; finish; return x : Reader α).Yields input x
        ((do let x ← r; finish; return x : Reader α).run.run input).2 := Prod.ext h rfl
    obtain ⟨y, mid, first, read⟩ := yields_bind_iff.1 read
    obtain ⟨_, rest, last, ends⟩ := yields_bind_iff.1 read
    obtain rfl : y = x := Except.ok.inj (congrArg Prod.fst ends)
    exact ⟨mid, rest, first, last⟩
  · rintro ⟨mid, rest, first, last⟩
    exact congrArg Prod.fst (first.bind (last.bind (yields_pure x rest)))

/-! ### Kinds of values -/

/-- Whatever the reader reads is of some kind. -/
def Gives (r : Reader α) (post : α → Prop) : Prop :=
  ∀ input x rest, r.Yields input x rest → post x

variable {post : α → Prop} {post' : β → Prop}

theorem gives_anything (r : Reader α) : r.Gives fun _ => True := fun _ _ _ _ => trivial

theorem gives_pure {x : α} (h : post x) : (pure x : Reader α).Gives post := by
  rintro _ _ _ ⟨⟩
  exact h

theorem gives_fail (problem : Problem) : (fail problem : Reader α).Gives post := by
  rintro _ _ _ ⟨⟩

theorem gives_failAhead (problem : Problem) : (failAhead problem : Reader α).Gives post := by
  rintro _ _ _ ⟨⟩

theorem gives_mismatch (m : Mismatch) : (mismatch m : Reader α).Gives post := gives_fail _

theorem Gives.bind (h : r.Gives post) (hf : ∀ x, post x → (f x).Gives post') :
    (r >>= f).Gives post' := by
  intro input y rest read
  obtain ⟨x, mid, first, second⟩ := yields_bind_iff.1 read
  exact hf x (h _ _ _ first) _ _ _ second

/-- What comes before the last part may give anything. -/
theorem Gives.after (hf : ∀ x, (f x).Gives post') : (r >>= f).Gives post' :=
  r.gives_anything.bind fun x _ => hf x

theorem Gives.inside (place : Place) (h : r.Gives post) : (Reader.inside place r).Gives post :=
  fun _ _ _ read => h _ _ _ read.of_inside

theorem gives_unexpected (expected : String) (first : UInt8) :
    (unexpected expected first : Reader α).Gives post := by
  have ends (found : Found) :
      (mismatch (.invalidType found expected) : Reader α).Gives post := gives_mismatch _
  unfold unexpected
  dsimp only
  repeat' split
  · exact .after fun _ => .after fun _ => .after ends
  · exact .after fun _ => .after fun _ => .after ends
  · exact .after fun _ => .after fun _ => .after ends
  · exact .after fun _ => .after ends
  · exact .after fun _ => .after fun _ => .after ends
  · exact .after ends
  · exact .after ends
  · exact .after ends

theorem Gives.of_all {x : α} (h : r.Gives post) (read : r.all input = .ok x) : post x := by
  obtain ⟨mid, rest, first, -⟩ := all_eq_ok_iff.1 read
  exact h _ _ _ first

/-! ### Records -/

theorem require_eq_ok_iff {name : String} {field : Option α} {x : α} :
    require name field = .ok x ↔ field = some x := by
  cases field <;> simp [require]

variable {inv : σ → Prop} {slots : List (Slot σ)} {s : σ}

/-- A slot whose values are of a kind that the draft can take. -/
theorem Gives.slot {name : String} {get : σ → Option α} {put : α → σ → σ} (h : r.Gives post)
    (takes : ∀ x, post x → inv (put x s)) : ((Slot.of name get put r).read s).Gives inv :=
  h.bind fun x hx => gives_pure (takes x hx)

theorem gives_fill (keeps : ∀ slot ∈ slots, ∀ s, inv s → (slot.read s).Gives inv) (fuel : Nat)
    (isFirst : Bool) (hs : inv s) : (fill slots fuel isFirst s).Gives inv := by
  induction fuel generalizing isFirst s with
  | zero => exact gives_failAhead _
  | succ fuel ih =>
    refine .after fun more => ?_
    split
    · refine .after fun name => ?_
      split
      · next slot found =>
        split
        · exact .after fun _ => gives_mismatch _
        · have read := keeps slot (List.mem_of_find?_eq_some found) s hs
          exact (Gives.inside _ (.after fun _ => read)).bind fun s' hs' => ih false hs'
      · exact .after fun _ => ih false hs
    · exact gives_pure hs

theorem gives_fillInOrder {title : String} {count : Nat}
    (keeps : ∀ slot ∈ slots, ∀ s, inv s → (slot.read s).Gives inv) (i : Nat) (hs : inv s) :
    (fillInOrder title count slots i s).Gives inv := by
  induction slots generalizing i s with
  | nil => exact gives_pure hs
  | cons slot slots ih =>
    have next : (Reader.inside (.element i) (do
        if ← moreElements (i = 0) then return some (← slot.read s) else return none)).Gives
          fun s' => ∀ t ∈ s', inv t := by
      refine .inside _ (.after fun more => ?_)
      split
      · exact (keeps slot List.mem_cons_self s hs).bind fun s' hs' =>
          gives_pure fun t ht => Option.some.inj ht ▸ hs'
      · exact gives_pure nofun
    refine next.bind fun s' hs' => ?_
    split
    · exact ih (fun other h => keeps other (List.mem_cons_of_mem _ h)) (i + 1) (hs' _ rfl)
    · exact .after fun _ => gives_mismatch _

/-- A record that is completed from a draft of which `inv` holds. -/
theorem gives_record {title : String} {empty : σ} {complete : σ → Except Mismatch α}
    (base : inv empty) (keeps : ∀ slot ∈ slots, ∀ s, inv s → (slot.read s).Gives inv)
    (completes : ∀ s x, inv s → complete s = .ok x → post x) :
    (record title slots empty complete).Gives post := by
  have ends {s : σ} (hs : inv s) {x : α} (completed : complete s = .ok x) :
      (pure x : Reader α).Gives post := gives_pure (completes s x hs completed)
  refine .after fun first => ?_
  split
  · refine .after fun _ => (gives_fillInOrder keeps 0 base).bind fun s hs => .after fun _ => ?_
    split
    · exact ends hs ‹_›
    · exact gives_mismatch _
  · split
    · refine .after fun _ => .after fun _ => (gives_fill keeps _ true base).bind fun s hs =>
        .after fun _ => ?_
      split
      · exact ends hs ‹_›
      · exact gives_mismatch _
    · exact gives_unexpected _ _

end Teller.Json.Reader
