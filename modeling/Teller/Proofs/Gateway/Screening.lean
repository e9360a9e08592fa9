import Teller.Proofs.Gateway.Accounts
import Teller.Proofs.Token.Size

/-!
# Bodies are screened before anything is done

A handler that takes a body sees nothing of it but the value that it spells, and only if the value
is allowed. For every other body nothing is asked, nothing drawn and nothing sent: the answer is a
bad request at once.
-/

namespace Teller.Gateway

open Store Interaction Handler

/-- How requests go whose bodies are taken for a form: `goes` says how one with a body can go on
from the moment the body is looked at, and `act` is what the handler does with a value. -/
structure Screens {α : Type} (form : Form α) (Allowed : α → Prop) (act : α → Handler Json.Value)
    (headers : Headers) (goes : List UInt8 → List Exchange → Option Response → Prop) : Prop where
  /-- Exactly the bodies that spell an allowed value are taken, and for that value. -/
  taken_iff : ∀ body x, form.read headers body = .ok x ↔ form.Spells headers body x ∧ Allowed x
  /-- For such a body the handler acts on the value alone. -/
  passed : ∀ body x, form.Spells headers body x → Allowed x → ∀ log response,
    goes body log response ↔ (respond (act x)).Goes log response
  /-- Nothing is done for another one. -/
  refused : ∀ body, (¬∃ x, form.Spells headers body x ∧ Allowed x) → RefusedAtOnce (goes body)

variable {α : Type} {form : Form α} {Allowed : α → Prop} {act : α → Handler Json.Value}
  {headers : Headers} {goes : List UInt8 → List Exchange → Option Response → Prop}

/-- A handler that begins with the body screens it. -/
theorem screens_of_handler (clean : ∀ {x}, (form.report x).isClean ↔ Allowed x)
    (serves : ∀ body log response, goes body log response ↔
      (respond (Handler.ofExcept (form.read headers body) >>= act)).Goes log response) :
    Screens form Allowed act headers goes := by
  have taken_iff (body : List UInt8) (x : α) :
      form.read headers body = .ok x ↔ form.Spells headers body x ∧ Allowed x := by
    rw [Form.read_eq_ok_iff, clean]
  refine ⟨taken_iff, fun body x spells allowed log response => ?_, fun body none => ?_⟩
  · rw [serves, (taken_iff body x).2 ⟨spells, allowed⟩]
    exact Iff.rfl
  · rcases form.read_cases headers body with ⟨message, refused⟩ | ⟨x, spells, allowed, -⟩
    · obtain ⟨message, turned⟩ := refusedAtOnce_badRequest message act
      refine ⟨message, fun log response => ?_⟩
      rw [serves, refused]
      exact turned log response
    · exact absurd ⟨x, spells, clean.1 allowed⟩ none

/-- The bodies of sign-ups, logins, renewals, openings of accounts and orders are screened for the
handlers of these endpoints, the last two behind the gate. -/
theorem bodies_screened (auth : Authority) (r : Request) (post : r.method = "POST") :
    let goes := fun body => (handle auth { r with body := body }).Goes
    (r.path = "/users" → Screens SignUp.form SignUp.IsAllowed SignUp.act r.headers goes) ∧
    (r.path = "/users/login" →
      Screens Login.form Login.IsAllowed (Login.act auth r.headers) r.headers goes) ∧
    (r.path = "/tokens/renew_access" →
      Screens Renewal.form Renewal.IsAllowed (Renewal.act auth) r.headers goes) ∧
    ∀ now p, Admits auth.maker now r.headers p →
      let goesOn := fun body log => goes body (⟨.time .tokens, now⟩ :: log)
      (r.path = "/accounts" →
        Screens Opening.form Opening.IsAllowed (Opening.act p) r.headers goesOn) ∧
      (r.path = "/transfers" →
        Screens TransferOrder.form TransferOrder.IsAllowed (TransferOrder.act p) r.headers
          goesOn) := by
  intro goes
  have free (endpoint : OpenEndpoint)
      (offered : (endpoints r.path).lookup "POST" = some (.free endpoint)) (body : List UInt8)
      (log : List Exchange) (response : Option Response) : goes body log response ↔
        (respond (serve auth { r with body := body } (.free endpoint))).Goes log response := by
    rw [← handle_of_endpoint (r := { r with body := body }) (post ▸ offered) (by rw [post]; decide)]
  refine ⟨fun path => ?_, fun path => ?_, fun path => ?_, fun now p admitted => ?_⟩
  · exact screens_of_handler SignUp.isClean_iff (free .signUp (by rw [path]; rfl))
  · exact screens_of_handler Login.isClean_iff (free .login (by rw [path]; rfl))
  · exact screens_of_handler Renewal.isClean_iff (free .renew (by rw [path]; rfl))
  refine ⟨fun path => ?_, fun path => ?_⟩
  · exact screens_of_handler Opening.isClean_iff fun body log response =>
      goes_admitted_iff (e := .openAccount) (post ▸ path ▸ .openAccount) admitted
  · exact screens_of_handler TransferOrder.isClean_iff fun body log response =>
      goes_admitted_iff (e := .transfer) (post ▸ path ▸ .transfer) admitted

/-- Ada's order is taken, and the same request without a body is turned away at the gate. -/
theorem payment_screened :
    payment.method = "POST" ∧ payment.path = "/transfers" ∧
      Admits vault.maker .epoch payment.headers adasPayload ∧
      (TransferOrder.form.Spells payment.headers payment.body paymentOrder ∧
        paymentOrder.IsAllowed) ∧
      ∃ message, (handle vault { payment with body := [] }).Goes [⟨.time .tokens, .epoch⟩]
        (some (.ofFailure ⟨400, 1001, message⟩)) := by
  have admitted := payment_admitted.2.2.2
  obtain ⟨-, -, -, guarded⟩ := bodies_screened vault payment rfl
  have screens := (guarded .epoch adasPayload admitted).2 rfl
  have empty : ∀ x, TransferOrder.form.read payment.headers [] ≠ .ok x := by
    have failed : (TransferOrder.form.read payment.headers []).toBool = false := by decide +kernel
    intro x taken
    rw [taken] at failed
    cases failed
  obtain ⟨message, refused⟩ := screens.refused [] fun ⟨x, spelled⟩ =>
    empty x ((screens.taken_iff [] x).2 spelled)
  exact ⟨rfl, rfl, admitted, (screens.taken_iff _ _).1 payment_cleared.body, message,
    (refused [] _).2 ⟨rfl, rfl⟩⟩

/-- An account is to be opened, and there is a note that nobody asked for. -/
def wordy (note : String) : Json.Value := .object [("note", .text note), ("currency", .text "USD")]

theorem reads_wordy {note : String}
    (plain : ∀ c ∈ note.toList, 0x20 ≤ c.toNat ∧ c ≠ '"' ∧ c ≠ '\\') :
    Opening.form.reader.Reads (wordy note) ⟨"USD"⟩ :=
  Json.Reader.Fills.reads_record (.unknown rfl (Json.Reader.reads_skipValue_text plain)
    (.known rfl rfl ((Json.Reader.reads_text "USD").map _) (.nil _))) rfl

theorem length_lt_wordy (note : String) :
    note.toList.length < (Utf8.encode (wordy note).chars).length := by
  have inner := Json.length_le_literal note.toList
  refine Nat.lt_of_lt_of_le ?_ (Utf8.length_le_encode _)
  simp only [wordy, Json.Value.chars, Json.memberTexts, Json.commas, List.length_append,
    List.length_cons]
  omega

/-- Two megabytes. -/
def longNote : String := String.ofList (List.replicate 2097152 'a')

theorem toList_longNote : longNote.toList = List.replicate 2097152 'a' := String.toList_ofList

/-- Ada opens an account with it. -/
def wordyOpening : Request where
  method := "POST"
  path := "/accounts"
  query := none
  headers := payment.headers
  body := Utf8.encode (wordy longNote).chars

theorem longest_lt_wordyOpening : Form.longest < wordyOpening.body.length := by
  have length := length_lt_wordy longNote
  rw [toList_longNote, List.length_replicate] at length
  exact length

theorem wordyOpening_spells :
    Json.Reader.all Opening.form.reader wordyOpening.body = .ok ⟨"USD"⟩ := by
  refine (reads_wordy fun c hc => ?_).all
  rw [toList_longNote] at hc
  rw [List.eq_of_mem_replicate hc]
  decide

/-- The body is announced as JSON and spells what is allowed, but it is too long. -/
theorem wordyOpening_refused :
    (wordyOpening.headers.text? "content-type").any MediaType.isJson ∧
      Json.Reader.all Opening.form.reader wordyOpening.body = .ok ⟨"USD"⟩ ∧
      Opening.IsAllowed ⟨"USD"⟩ ∧ Admits vault.maker .epoch wordyOpening.headers adasPayload ∧
      (handle vault wordyOpening).Goes [⟨.time .tokens, .epoch⟩] (some (.ofFailure ⟨400, 1001,
        "Invalid JSON: Failed to buffer the request body: length limit exceeded"⟩)) := by
  have announced : (wordyOpening.headers.text? "content-type").any MediaType.isJson := by
    decide +kernel
  have admitted : Admits vault.maker .epoch wordyOpening.headers adasPayload :=
    payment_admitted.2.2.2
  have unread : Opening.form.read wordyOpening.headers wordyOpening.body = .error ⟨400, 1001,
      "Invalid JSON: Failed to buffer the request body: length limit exceeded"⟩ := by
    rw [Form.read, announced, if_pos longest_lt_wordyOpening]
    rfl
  refine ⟨announced, wordyOpening_spells, ⟨by decide⟩, admitted, ?_⟩
  refine (goes_admitted_iff (e := .openAccount) .openAccount admitted).2 ?_
  exact goes_respond_ofExcept_iff.2 (.inr ⟨_, unread, rfl, rfl⟩)

end Teller.Gateway
