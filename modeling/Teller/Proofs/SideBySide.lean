import Mathlib.Data.List.Forall2
import Teller.Proofs.Dialogue

/-!
# Two runs side by side

Two replies of a database are alike if they differ at most in how a refusal is explained. Two
interactions are in unison if they ask the same, and go on in unison whenever they are given alike
answers, to ends that are related.

    x    ask q ── a  ── ask q' ── b  ── done u
                alike          alike      same
    y    ask q ── a' ── ask q' ── b' ── done v
-/

namespace Teller

namespace Store

/-- A condition code of a violated constraint, about which clients are told. -/
def IsViolation (code : Option String) : Prop :=
  code = some Error.uniqueViolation ∨ code = some Error.foreignKeyViolation

instance (code : Option String) : Decidable (IsViolation code) :=
  inferInstanceAs (Decidable (_ ∨ _))

/-- Two replies that are the same but for the text of a refusal, and for its code where neither code
is one of a violated constraint. -/
inductive Reply.Alike : Reply → Reply → Prop where
  | same (reply : Reply) : Alike reply reply
  | refused {code code' : Option String}
      (h : code = code' ∨ ¬IsViolation code ∧ ¬IsViolation code') (detail detail' : String) :
      Alike (.refused code detail) (.refused code' detail')

/-- Replies that are alike, or silence twice. -/
def AlikeReplies : Option Reply → Option Reply → Prop := Option.Rel Reply.Alike

theorem AlikeReplies.same (reply : Option Reply) : AlikeReplies reply reply := by
  cases reply with
  | none => exact .none
  | some reply => exact .some (.same reply)

/-- Scripts that say the same but for how refusals are explained, and that have come equally far. -/
structure Script.Alike (s s' : Script) : Prop where
  replies : List.Forall₂ (fun reply reply' => ∀ statement,
    AlikeReplies (reply statement) (reply' statement)) s.replies s'.replies
  commands : List.Forall₂ (fun command command' => command.1 = command'.1 ∧
    AlikeReplies command.2 command'.2) s.commands s'.commands
  recorded : s.recorded = s'.recorded
  inTransaction : s.inTransaction = s'.inTransaction
  isBroken : s.isBroken = s'.isBroken

end Store

open Store (AlikeReplies Script)

/-- The same clock readings, identifiers, nonces and salts, and alike replies. -/
def Question.Alike : (q : Question) → q.Answer → q.Answer → Prop
  | .send _ => AlikeReplies
  | .time _ | .identifier | .nonce | .salt => Eq

/-- The same question, with alike answers. -/
inductive Exchange.Alike : Exchange → Exchange → Prop where
  | intro {q : Question} {a a' : q.Answer} (h : q.Alike a a') : Alike ⟨q, a⟩ ⟨q, a'⟩

/-- Worlds in which everything is the same but for how their scripts explain refusals. -/
structure World.Alike (w w' : World Script) : Prop where
  database : w.database.Alike w'.database
  tokenTime : w.tokenTime = w'.tokenTime
  wallTime : w.wallTime = w'.wallTime
  identifier : w.identifier = w'.identifier
  nonces : w.nonces = w'.nonces
  salts : w.salts = w'.salts

/-! ### Alike scripts give alike replies -/

/-- The first of each list that is looked for, where related ones are both looked for or neither. -/
theorem find?_rel {γ δ : Type} {R : γ → δ → Prop} {p : γ → Bool} {p' : δ → Bool} {l : List γ}
    {l' : List δ} (h : List.Forall₂ R l l') (both : ∀ x y, R x y → p x = p' y) :
    Option.Rel R (l.find? p) (l'.find? p') := by
  induction h with
  | nil => exact .none
  | @cons x y l l' pair _ ih =>
    rw [List.find?_cons, List.find?_cons, both x y pair]
    split
    · exact .some pair
    · exact ih

namespace Store

/-- Of two alike replies both break the connection, or neither does. -/
theorem AlikeReplies.broken_iff {reply reply' : Option Reply} (h : AlikeReplies reply reply') :
    reply = some .broken ↔ reply' = some .broken := by
  cases h with
  | none => exact Iff.rfl
  | some alike =>
    cases alike with
    | same => exact Iff.rfl
    | refused => exact ⟨nofun, nofun⟩

namespace Script.Alike

variable {s s' : Script}

theorem commandReply (h : s.Alike s') (request : Request) :
    AlikeReplies (s.commandReply request) (s'.commandReply request) := by
  let names (c : String × Option Reply) : Bool := request.text.startsWith c.1
  have found : Option.Rel _ (s.commands.find? names) (s'.commands.find? names) :=
    find?_rel h.commands fun c c' pair => congrArg (request.text.startsWith ·) pair.1
  change AlikeReplies (((s.commands.find? names).map _).getD _)
    (((s'.commands.find? names).map _).getD _)
  generalize s.commands.find? names = c at found ⊢
  generalize s'.commands.find? names = c' at found ⊢
  cases found with
  | none => exact .same _
  | some pair => exact pair.2

theorem start (h : s.Alike s') :
    AlikeReplies s.start.1 s'.start.1 ∧ s.start.2.Alike s'.start.2 := by
  have replied := h.commandReply .start
  have recorded := congrArg (Request.start :: ·) h.recorded
  unfold Script.start
  generalize s.commandReply .start = reply at replied ⊢
  generalize s'.commandReply .start = reply' at replied ⊢
  refine ⟨replied, { h with recorded := recorded, inTransaction := ?_, isBroken := rfl }⟩
  cases replied with
  | none => rfl
  | some alike => cases alike <;> rfl

theorem finish (h : s.Alike s') (request : Request) :
    AlikeReplies (s.finish request).1 (s'.finish request).1 ∧
      (s.finish request).2.Alike (s'.finish request).2 := by
  have recorded := congrArg (request :: ·) h.recorded
  unfold Script.finish
  rw [h.isBroken]
  split
  · exact ⟨.same _, { h with inTransaction := rfl, isBroken := rfl }⟩
  · exact ⟨h.commandReply request, { h with recorded := recorded, inTransaction := rfl }⟩

theorem query (h : s.Alike s') (statement : Statement) (arguments : List Value) :
    AlikeReplies (s.query statement arguments).1 (s'.query statement arguments).1 ∧
      (s.query statement arguments).2.Alike (s'.query statement arguments).2 := by
  obtain ⟨replies, commands, recorded, inTransaction, isBroken⟩ := s
  obtain ⟨replies', commands', recorded', inTransaction', isBroken'⟩ := s'
  obtain ⟨hreplies, hcommands, hrecorded, hin, hbroken⟩ := h
  dsimp only at hreplies hcommands hrecorded hin hbroken
  subst hrecorded hin hbroken
  unfold Script.query
  dsimp only
  split
  · exact ⟨.same _, ⟨hreplies, hcommands, rfl, rfl, rfl⟩⟩
  · cases hreplies with
    | nil => exact ⟨.same _, ⟨.nil, hcommands, rfl, rfl, rfl⟩⟩
    | cons alike rest =>
      refine ⟨alike statement, ⟨rest, hcommands, rfl, rfl, ?_⟩⟩
      simp only [(alike statement).broken_iff]

/-- Whatever alike scripts are asked, they answer alike and are alike after it. -/
theorem answer (h : s.Alike s') (request : Request) :
    AlikeReplies (s.answer request).1 (s'.answer request).1 ∧
      (s.answer request).2.Alike (s'.answer request).2 := by
  cases request with
  | start => exact h.start
  | commit => exact h.finish .commit
  | rollback => exact h.finish .rollback
  | query statement arguments => exact h.query statement arguments

end Script.Alike

end Store

/-- Whatever alike worlds are asked, they answer alike and are alike after it. -/
theorem World.Alike.answer {w w' : World Script} (h : w.Alike w') (q : Question) :
    q.Alike (World.answer (fun request script => script.answer request) q w).1
        (World.answer (fun request script => script.answer request) q w').1 ∧
      (World.answer (fun request script => script.answer request) q w).2.Alike
        (World.answer (fun request script => script.answer request) q w').2 := by
  cases q with
  | send request =>
    obtain ⟨replied, database⟩ := h.database.answer request
    exact ⟨replied, { h with database := database }⟩
  | time clock =>
    cases clock with
    | tokens => exact ⟨h.tokenTime, h⟩
    | wall => exact ⟨h.wallTime, h⟩
  | identifier =>
    exact ⟨h.identifier, { h with identifier := congrArg Uuid.next h.identifier }⟩
  | nonce =>
    exact ⟨congrArg Token.Sealed.Nonce.ofNat h.nonces,
      { h with nonces := congrArg (· + 1) h.nonces }⟩
  | salt =>
    exact ⟨congrArg Password.Salt.ofNat h.salts, { h with salts := congrArg (· + 1) h.salts }⟩

/-! ### Interactions in unison -/

namespace Interaction

variable {α β γ δ σ : Type}

/-- Two interactions that ask the same and, as long as they are given alike answers, go on in unison
to ends of which `same` holds. -/
inductive InUnison (same : α → β → Prop) : Interaction α → Interaction β → Prop where
  | done {a : α} {b : β} (h : same a b) : InUnison same (.done a) (.done b)
  | stalled : InUnison same .stalled .stalled
  | ask {q : Question} {next : q.Answer → Interaction α} {next' : q.Answer → Interaction β}
      (h : ∀ a a', q.Alike a a' → InUnison same (next a) (next' a')) :
      InUnison same (.ask q next) (.ask q next')

variable {same : α → β → Prop} {x : Interaction α} {y : Interaction β}

theorem InUnison.bind {same' : γ → δ → Prop} {f : α → Interaction γ} {g : β → Interaction δ}
    (h : x.InUnison same y) (hf : ∀ a b, same a b → (f a).InUnison same' (g b)) :
    (x >>= f).InUnison same' (y >>= g) := by
  induction h with
  | done h => exact hf _ _ h
  | stalled => exact .stalled
  | ask _ ih => exact .ask ih

theorem InUnison.limited (h : x.InUnison same y) :
    x.limited.InUnison (Option.Rel same) y.limited := by
  induction h with
  | done h => exact .done (.some h)
  | stalled => exact .done .none
  | ask _ ih => exact .ask ih

theorem inUnison_send (request : Store.Request) :
    (send request).InUnison Store.Reply.Alike (send request) := by
  refine .ask fun reply reply' alike => ?_
  cases alike with
  | none => exact .stalled
  | some alike => exact .done alike

theorem inUnison_time (clock : Clock) : (time clock).InUnison Eq (time clock) :=
  .ask fun _ _ => .done

theorem inUnison_identifier : identifier.InUnison Eq identifier := .ask fun _ _ => .done

theorem inUnison_nonce : nonce.InUnison Eq nonce := .ask fun _ _ => .done

theorem inUnison_salt : salt.InUnison Eq salt := .ask fun _ _ => .done

/-- Given alike answers, interactions in unison both come to an end or both stall. -/
theorem InUnison.goes (h : x.InUnison same y) {log log' : List Exchange} {ending : Option α}
    (alike : List.Forall₂ Exchange.Alike log log') (goes : x.Goes log ending) :
    ∃ ending', y.Goes log' ending' ∧ Option.Rel same ending ending' := by
  induction h generalizing log log' with
  | done h =>
    cases goes
    cases alike
    exact ⟨_, .done _, .some h⟩
  | stalled =>
    cases goes
    cases alike
    exact ⟨none, .stalled, .none⟩
  | ask _ ih =>
    obtain ⟨a, rest, rfl, going⟩ := goes_ask_iff.1 goes
    cases alike with
    | cons first others =>
      cases first with
      | intro answers =>
        obtain ⟨ending', going', ends⟩ := ih _ _ answers others going
        exact ⟨ending', .ask _ going', ends⟩

/-- In alike worlds interactions in unison come to related ends, and have asked the same. -/
theorem InUnison.rehearse (h : x.InUnison same y) {w w' : World Script} (worlds : w.Alike w') :
    Option.Rel same (w.rehearse x).1 (w'.rehearse y).1 ∧
      List.Forall₂ Exchange.Alike (x.scriptLog w) (y.scriptLog w') := by
  induction h generalizing w w' with
  | done h => exact ⟨.some h, .nil⟩
  | stalled => exact ⟨.none, .nil⟩
  | @ask q next next' _ ih =>
    obtain ⟨answers, later⟩ := worlds.answer q
    obtain ⟨ends, others⟩ := ih _ _ answers later
    exact ⟨ends, .cons (.intro answers) others⟩

end Interaction

end Teller
