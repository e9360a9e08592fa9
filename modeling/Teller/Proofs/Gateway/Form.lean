import Mathlib.Tactic.MkIffOfInductiveProp
import Teller.Gateway.Form
import Teller.Proofs.Json.Reading

/-!
# Bodies that are taken

A body is taken if it is announced as JSON, is not too long, can be read, and its value breaks no
constraint. Every other one is a bad request.
-/

namespace Teller.Gateway

namespace Constraint

/-- A length is no violation if it lies between its bounds. -/
theorem length_eq_nil_iff {least most : Option Nat} {s : String} :
    length least most s = [] ↔ (∀ a ∈ least, a ≤ s.length) ∧ ∀ b ∈ most, s.length ≤ b := by
  rw [length, outside, String.length_toList]
  cases least <;> cases most <;> simp

/-- A number is no violation if it lies between its bounds. -/
theorem range_eq_nil_iff {least most : Option Int} {n : Int64} :
    range least most n = [] ↔ (∀ a ∈ least, a ≤ n.toInt) ∧ ∀ b ∈ most, n.toInt ≤ b := by
  rw [range, outside]
  cases least <;> cases most <;> simp

theorem currency_eq_nil_iff {s : String} : currency s = [] ↔ s ∈ supportedCurrencies := by
  simp [currency]

theorem username_eq_nil_iff {s : String} : username s = [] ↔ ∀ c ∈ s.toList, usernameChar c := by
  simp [username]

theorem fullName_eq_nil_iff {s : String} : fullName s = [] ↔ ∀ c ∈ s.toList, fullNameChar c := by
  simp [fullName]

end Constraint

namespace Form

variable {α : Type} {form : Form α} {headers : Headers} {body : List UInt8}

/-- A value is taken as it is, or it is a bad request. -/
theorem validate_cases (form : Form α) (x : α) :
    (∃ message, form.validate x = .error (.badRequest message)) ∨
      ((form.report x).isClean ∧ form.validate x = .ok x) := by
  unfold validate
  dsimp only
  split
  · next clean => exact .inr ⟨clean, rfl⟩
  · exact .inl ⟨_, rfl⟩

theorem validate_eq_ok_iff (form : Form α) {x y : α} :
    form.validate x = .ok y ↔ x = y ∧ (form.report x).isClean := by
  unfold validate
  dsimp only
  split
  · next clean => simp [clean]
  · next unclean => simp [unclean]

/-- A body spells a value if it is announced as JSON, is not too long and can be read as that. -/
structure Spells (form : Form α) (headers : Headers) (body : List UInt8) (x : α) : Prop where
  announced : (headers.text? "content-type").any MediaType.isJson
  short : body.length ≤ longest
  readable : Json.Reader.all form.reader body = .ok x

theorem Spells.read {x : α} (h : form.Spells headers body x) :
    form.read headers body = form.validate x := by
  rw [Form.read, h.announced, if_neg (Nat.not_lt.2 h.short), h.readable]
  rfl

/-- A body is a bad request, or it is taken as the allowed value that it spells. -/
theorem read_cases (form : Form α) (headers : Headers) (body : List UInt8) :
    (∃ message, form.read headers body = .error (.badRequest message)) ∨
      ∃ x, form.Spells headers body x ∧ (form.report x).isClean ∧
        form.read headers body = .ok x := by
  cases announced : (headers.text? "content-type").any MediaType.isJson with
  | false =>
    left
    rw [read, announced]
    exact ⟨_, rfl⟩
  | true =>
    by_cases short : body.length ≤ longest
    case neg =>
      left
      rw [read, announced, if_pos (Nat.not_le.1 short)]
      exact ⟨_, rfl⟩
    cases readable : Json.Reader.all form.reader body with
    | error fault =>
      left
      rw [read, announced, if_neg (Nat.not_lt.2 short), readable]
      exact ⟨_, rfl⟩
    | ok x =>
      have spells : form.Spells headers body x := ⟨announced, short, readable⟩
      rw [spells.read]
      exact (form.validate_cases x).imp_right fun ⟨clean, valid⟩ => ⟨x, spells, clean, valid⟩

/-- The bodies that are taken, and what for. -/
theorem read_eq_ok_iff {x : α} :
    form.read headers body = .ok x ↔ form.Spells headers body x ∧ (form.report x).isClean := by
  constructor
  · intro h
    rcases form.read_cases headers body with ⟨message, refused⟩ | ⟨y, spells, clean, taken⟩
    · rw [refused] at h
      cases h
    · rw [taken] at h
      cases h
      exact ⟨spells, clean⟩
  · rintro ⟨spells, clean⟩
    rw [spells.read]
    exact if_pos clean

/-- The compact text of a value is taken for what it is read as, if that breaks no constraint. -/
theorem read_of_reads {v : Json.Value} {x : α}
    (announced : (headers.text? "content-type").any MediaType.isJson)
    (short : (Utf8.encode v.chars).length ≤ longest) (readable : form.reader.Reads v x)
    (clean : (form.report x).isClean) :
    form.read headers (Utf8.encode v.chars) = .ok x :=
  read_eq_ok_iff.2 ⟨⟨announced, short, readable.all⟩, clean⟩

theorem status_of_read_eq_error {f : Failure} (h : form.read headers body = .error f) :
    f.status = 400 := by
  rcases form.read_cases headers body with ⟨message, refused⟩ | ⟨y, -, -, taken⟩
  · rw [refused] at h
    cases h
    rfl
  · rw [taken] at h
    cases h

end Form

/-! ### What is allowed -/

/-- Three to a hundred lower-case ASCII letters, digits and underscores. -/
@[mk_iff]
structure IsUsername (s : String) : Prop where
  least : 3 ≤ s.length
  most : s.length ≤ 100
  chars : ∀ c ∈ s.toList, ('a' ≤ c ∧ c ≤ 'z') ∨ ('0' ≤ c ∧ c ≤ '9') ∨ c = '_'

/-- Six to a hundred characters of any kind. -/
@[mk_iff]
structure IsPassword (s : String) : Prop where
  least : 6 ≤ s.length
  most : s.length ≤ 100

/-- Three to a hundred alphabetic characters and spaces. -/
@[mk_iff]
structure IsFullName (s : String) : Prop where
  least : 3 ≤ s.length
  most : s.length ≤ 100
  chars : ∀ c ∈ s.toList, Text.isAlphabetic c ∨ c = ' '

/-- What has to hold of a sign-up. -/
@[mk_iff]
structure SignUp.IsAllowed (x : SignUp) : Prop where
  username : IsUsername x.username
  password : IsPassword x.password
  fullName : IsFullName x.fullName
  emailLength : x.email.length ≤ 200
  email : Email.isAddress x.email

/-- What has to hold of a login. -/
@[mk_iff]
structure Login.IsAllowed (x : Login) : Prop where
  username : IsUsername x.username
  password : IsPassword x.password

/-- What has to hold of a renewal. -/
@[mk_iff]
structure Renewal.IsAllowed (x : Renewal) : Prop where
  refreshToken : x.refreshToken ≠ ""

/-- What has to hold of an opening. -/
@[mk_iff]
structure Opening.IsAllowed (x : Opening) : Prop where
  currency : x.currency ∈ ["USD", "EUR", "CAD", "YEN", "AUD"]

/-- What has to hold of an order to transfer. -/
@[mk_iff]
structure TransferOrder.IsAllowed (x : TransferOrder) : Prop where
  fromAccount : 1 ≤ x.fromAccount.toInt
  toAccount : 1 ≤ x.toAccount.toInt
  amount : 1 ≤ x.amount.toInt
  currency : x.currency ∈ ["USD", "EUR", "CAD", "YEN", "AUD"]

/-- Pages are counted from 0 and have 5 to 100 accounts. -/
@[mk_iff]
structure Page.IsAllowed (x : Page) : Prop where
  offset : 0 ≤ x.offset.toInt
  least : 5 ≤ x.limit.toInt
  most : x.limit.toInt ≤ 100

open Constraint

theorem usernameRules_eq_nil_iff {s : String} : usernameRules s = [] ↔ IsUsername s := by
  simp [usernameRules, isUsername_iff, length_eq_nil_iff, username_eq_nil_iff, usernameChar,
    or_assoc, and_assoc]

theorem passwordRules_eq_nil_iff {s : String} : passwordRules s = [] ↔ IsPassword s := by
  simp [passwordRules, isPassword_iff, length_eq_nil_iff]

theorem fullNameRules_eq_nil_iff {s : String} : fullNameRules s = [] ↔ IsFullName s := by
  simp [fullNameRules, isFullName_iff, length_eq_nil_iff, fullName_eq_nil_iff, fullNameChar,
    and_assoc]

theorem Constraint.Report.isClean_cons {name : String} {violations : List Violation}
    {report : Report} :
    Report.isClean ((name, violations) :: report) ↔ violations = [] ∧ report.isClean := by
  simp [Report.isClean]

theorem Constraint.Report.isClean_nil : Report.isClean [] := rfl

theorem SignUp.isClean_iff {x : SignUp} : (form.report x).isClean ↔ x.IsAllowed := by
  simp [form, isAllowed_iff, Report.isClean_cons, Report.isClean_nil, usernameRules_eq_nil_iff,
    passwordRules_eq_nil_iff, fullNameRules_eq_nil_iff, length_eq_nil_iff, Email.check]

theorem Login.isClean_iff {x : Login} : (form.report x).isClean ↔ x.IsAllowed := by
  simp [form, isAllowed_iff, Report.isClean_cons, Report.isClean_nil, usernameRules_eq_nil_iff,
    passwordRules_eq_nil_iff]

theorem Renewal.isClean_iff {x : Renewal} : (form.report x).isClean ↔ x.IsAllowed := by
  simp [form, isAllowed_iff, Report.isClean_cons, Report.isClean_nil, length_eq_nil_iff,
    Nat.one_le_iff_ne_zero]

theorem Opening.isClean_iff {x : Opening} : (form.report x).isClean ↔ x.IsAllowed := by
  simp [form, isAllowed_iff, Report.isClean_cons, Report.isClean_nil, currency_eq_nil_iff,
    supportedCurrencies]

theorem TransferOrder.isClean_iff {x : TransferOrder} :
    (form.report x).isClean ↔ x.IsAllowed := by
  simp [form, isAllowed_iff, Report.isClean_cons, Report.isClean_nil, range_eq_nil_iff,
    currency_eq_nil_iff, supportedCurrencies]

theorem Page.isClean_iff {x : Page} : (form.report x).isClean ↔ x.IsAllowed := by
  simp [form, isAllowed_iff, Report.isClean_cons, Report.isClean_nil, range_eq_nil_iff]

end Teller.Gateway
