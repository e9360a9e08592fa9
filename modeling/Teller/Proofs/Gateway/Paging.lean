import Teller.Proofs.Gateway.Accounts
import Teller.Proofs.Gateway.Served
import Teller.Proofs.Store.Pages
import Teller.Proofs.Text.Numeral
import Teller.Proofs.Text.Query

/-!
# Paging

A list of accounts is asked for by the number of a page and its size. What no page can be is turned
away before anything is sent. Otherwise the size goes to the database as it is, and the number times
the size is how many accounts are skipped, so that the pages of one size are the accounts of the
subject, each of them once.
-/

namespace Teller.Gateway

open Store Interaction Handler

namespace Page

/-! ### Which page a query asks for -/

/-- The numbers that stand under a name. -/
def numbers (name : String) (pairs : List (String × String)) :
    List (Except Text.Misspelling Int64) :=
  (pairs.filter fun pair => pair.1 = name).map fun pair => Text.int64? pair.2.toList

/-- A query has each number of a page once. -/
structure IsAskedBy (page : Page) (query : Option String) : Prop where
  offset : numbers "offset" (Text.Percent.formPairs (query.getD "")) = [.ok page.offset]
  limit : numbers "limit" (Text.Percent.formPairs (query.getD "")) = [.ok page.limit]

variable {page : Page} {query : Option String}

/-- The query that has the digits of two numbers. -/
def queryOf (k n : Nat) : String :=
  Text.Percent.written [("offset".toList, Nat.toDigits 10 k), ("limit".toList, Nat.toDigits 10 n)]

theorem isAskedBy_queryOf {k n : Nat} (first : k ≤ 9223372036854775807)
    (second : n ≤ 9223372036854775807) :
    (⟨Int64.ofInt k, Int64.ofInt n⟩ : Page).IsAskedBy (queryOf k n) := by
  have literal (m : Nat) : Text.Percent.IsLiteral (Nat.toDigits 10 m) := by
    intro c mem special
    have digit := Text.isDigit_of_mem_toDigits mem
    simp only [List.mem_cons, List.not_mem_nil, or_false] at special
    rcases special with rfl | rfl | rfl | rfl <;> exact absurd digit (by decide)
  have offset : Text.Percent.IsLiteral "offset".toList := by simp [Text.Percent.IsLiteral]
  have limit : Text.Percent.IsLiteral "limit".toList := by simp [Text.Percent.IsLiteral]
  have pairs : Text.Percent.formPairs (queryOf k n) =
      [("offset", String.ofList (Nat.toDigits 10 k)),
        ("limit", String.ofList (Nat.toDigits 10 n))] :=
    Text.Percent.formPairs_written (List.cons_ne_nil _ _) (List.forall_mem_cons.2
      ⟨⟨offset, literal k⟩, List.forall_mem_singleton.2 ⟨limit, literal n⟩⟩)
  constructor
  · simp [numbers, pairs, Text.int64?_toDigits first]
  · simp [numbers, pairs, Text.int64?_toDigits second]

theorem complete_eq_ok_iff {d : Draft} :
    d.complete = .ok page ↔ d.offset = some page.offset ∧ d.limit = some page.limit := by
  obtain ⟨offset, limit⟩ := d
  cases page
  cases offset <;> cases limit <;> simp [Draft.complete]

/-- The name of a pair decides where its number goes, and there it must be the first. -/
theorem take_eq_ok_iff {d d' : Draft} {pair : String × String} :
    d.take pair = .ok d' ↔
      (pair.1 = "offset" ∧ d.offset = none ∧
        ∃ n, Text.int64? pair.2.toList = .ok n ∧ d' = { d with offset := some n }) ∨
      (pair.1 = "limit" ∧ d.limit = none ∧
        ∃ n, Text.int64? pair.2.toList = .ok n ∧ d' = { d with limit := some n }) ∨
      (pair.1 ≠ "offset" ∧ pair.1 ≠ "limit" ∧ d' = d) := by
  obtain ⟨offset, limit⟩ := d
  unfold Draft.take
  by_cases first : pair.1 = "offset"
  · cases offset <;> cases Text.int64? pair.2.toList <;>
      simp [first, Except.mapError, bind, Except.bind, pure, Except.pure, eq_comm]
  by_cases second : pair.1 = "limit"
  · cases limit <;> cases Text.int64? pair.2.toList <;>
      simp [second, Except.mapError, bind, Except.bind, pure, Except.pure, eq_comm]
  · simp [first, second, eq_comm]

/-- The numbers of a draft and of the pairs still to come are together those of the page. -/
theorem take_complete_eq_ok_iff (pairs : List (String × String)) (d : Draft) :
    (pairs.foldlM Draft.take d >>= Draft.complete) = .ok page ↔
      d.offset.toList.map .ok ++ numbers "offset" pairs = [.ok page.offset] ∧
        d.limit.toList.map .ok ++ numbers "limit" pairs = [.ok page.limit] := by
  -- The draft has to be any: what was taken before stands in front of what is still to come.
  induction pairs generalizing d with
  | nil =>
    obtain ⟨offset, limit⟩ := d
    change Draft.complete _ = _ ↔ _
    rw [complete_eq_ok_iff]
    cases offset <;> cases limit <;> simp [numbers]
  | cons pair pairs ih =>
    rw [List.foldlM_cons, LawfulMonad.bind_assoc, bind_eq_ok_iff]
    simp only [ih, take_eq_ok_iff]
    obtain ⟨offset, limit⟩ := d
    by_cases first : pair.1 = "offset"
    · cases offset <;> cases h : Text.int64? pair.2.toList <;> simp [first, h, numbers]
    by_cases second : pair.1 = "limit"
    · cases limit <;> cases h : Text.int64? pair.2.toList <;> simp [second, h, numbers]
    · simp [first, second, numbers]

/-- How many accounts come before a page. -/
def skipped (page : Page) : Int := page.offset.toInt * page.limit.toInt

theorem window_eq_ok_iff {w : Window} :
    page.window = .ok w ↔ w.limit = page.limit ∧ w.offset.toInt = page.skipped := by
  rw [skipped, ← Amount.mul?_eq_some_iff, window]
  obtain ⟨limit, offset⟩ := w
  cases Amount.mul? page.offset page.limit <;> simp [eq_comm]

theorem ofQuery_eq (query : Option String) : ofQuery query =
    ((Text.Percent.formPairs (query.getD "")).foldlM Draft.take ⟨none, none⟩ >>=
      Draft.complete).mapError (fun why => Failure.badRequest
        ("Failed to deserialize query string: " ++ why)) >>= form.validate := rfl

theorem ofQuery_eq_ok_iff : ofQuery query = .ok page ↔ page.IsAskedBy query ∧ page.IsAllowed := by
  have asked (x : Page) : (numbers "offset" (Text.Percent.formPairs (query.getD "")) =
      [.ok x.offset] ∧ numbers "limit" (Text.Percent.formPairs (query.getD "")) =
        [.ok x.limit]) ↔ x.IsAskedBy query := ⟨fun h => ⟨h.1, h.2⟩, fun h => ⟨h.1, h.2⟩⟩
  rw [ofQuery_eq, bind_eq_ok_iff]
  simp only [mapError_eq_ok_iff, take_complete_eq_ok_iff, Option.toList_none, List.map_nil,
    List.nil_append, asked, form.validate_eq_ok_iff, Page.isClean_iff]
  constructor
  · rintro ⟨_, asked, rfl, allowed⟩
    exact ⟨asked, allowed⟩
  · rintro ⟨asked, allowed⟩
    exact ⟨page, asked, rfl, allowed⟩

theorem ofQuery_cases (query : Option String) :
    (∃ message, ofQuery query = .error (.badRequest message)) ∨
      ∃ page, ofQuery query = .ok page := by
  rw [ofQuery_eq]
  cases (Text.Percent.formPairs (query.getD "")).foldlM Draft.take ⟨none, none⟩ >>=
      Draft.complete with
  | error why => exact .inl ⟨_, rfl⟩
  | ok page => exact (form.validate_cases page).imp_right fun valid => ⟨page, valid.2⟩

/-- Whatever is wrong with a query, it is a bad request. -/
theorem window_cases (query : Option String) :
    (∃ message, ofQuery query >>= window = .error (.badRequest message)) ∨
      ∃ w, ofQuery query >>= window = .ok w := by
  rcases ofQuery_cases query with ⟨message, refused⟩ | ⟨page, asked⟩
  · rw [refused]
    exact .inl ⟨message, rfl⟩
  · rw [asked]
    change (∃ message, page.window = _) ∨ ∃ w, page.window = _
    unfold window
    split
    · exact .inr ⟨_, rfl⟩
    · exact .inl ⟨_, rfl⟩

/-- A page is served unless it is out of range. -/
structure IsServed (page : Page) : Prop where
  allowed : page.IsAllowed
  fits : page.skipped ≤ Amount.greatest

theorem not_isServed_iff : ¬page.IsServed ↔ page.offset.toInt < 0 ∨
    ¬(5 ≤ page.limit.toInt ∧ page.limit.toInt ≤ 100) ∨ Amount.greatest < page.skipped := by
  constructor
  · intro h
    by_contra within
    simp only [not_or, Int.not_lt, not_not] at within
    exact h ⟨⟨within.1, within.2.1.1, within.2.1.2⟩, within.2.2⟩
  · rintro outside ⟨⟨offset, least, most⟩, fits⟩
    omega

theorem IsServed.skipped_nonneg (served : page.IsServed) : 0 ≤ page.skipped :=
  Int.mul_nonneg served.allowed.offset (by have := served.allowed.least; omega)

/-- The window of the page that a query asks for. -/
theorem IsAskedBy.window_iff (asked : page.IsAskedBy query) {w : Window} :
    ofQuery query >>= window = .ok w ↔
      page.IsServed ∧ w.limit = page.limit ∧ w.offset.toInt = page.skipped := by
  rw [bind_eq_ok_iff]
  constructor
  · rintro ⟨other, read, windowed⟩
    obtain ⟨asked', allowed⟩ := ofQuery_eq_ok_iff.1 read
    have same : other = page := by
      obtain ⟨offset, limit⟩ := page
      obtain ⟨offset', limit'⟩ := other
      have first := asked'.offset.symm.trans asked.offset
      have second := asked'.limit.symm.trans asked.limit
      simp only [List.cons.injEq, Except.ok.injEq, and_true] at first second
      rw [first, second]
    subst same
    obtain ⟨limit, offset⟩ := window_eq_ok_iff.1 windowed
    refine ⟨⟨allowed, ?_⟩, limit, offset⟩
    have := Int64.toInt_lt w.offset
    unfold Amount.greatest
    omega
  · rintro ⟨served, limit, offset⟩
    exact ⟨page, ofQuery_eq_ok_iff.2 ⟨asked, served.allowed⟩, window_eq_ok_iff.2 ⟨limit, offset⟩⟩

/-- A page whose size is allowed is served if its place in the list is an integer. -/
theorem isServed_of_fits {n k : Nat} (number : page.offset.toInt = k) (size : page.limit.toInt = n)
    (least : 5 ≤ n) (most : n ≤ 100) (fits : k * n ≤ 9223372036854775807) : page.IsServed := by
  refine ⟨⟨by omega, by omega, by omega⟩, ?_⟩
  rw [Page.skipped, number, size, Amount.greatest]
  omega

/-- Every such page can be asked for. -/
theorem exists_isAskedBy {n k : Nat} (least : 5 ≤ n) (most : n ≤ 100)
    (fits : k * n ≤ 9223372036854775807) : ∃ (page : Page) (query : Option String),
      page.offset.toInt = k ∧ page.limit.toInt = n ∧ page.IsAskedBy query := by
  have small : k ≤ 9223372036854775807 := Nat.le_trans (Nat.le_mul_of_pos_right k (by omega)) fits
  refine ⟨⟨Int64.ofInt k, Int64.ofInt n⟩, Page.queryOf k n, ?_, ?_,
    Page.isAskedBy_queryOf small (by omega)⟩
  · exact Int64.toInt_ofInt_of_le (by omega) (by omega)
  · exact Int64.toInt_ofInt_of_le (by omega) (by omega)

theorem IsServed.exists_window (served : page.IsServed) : ∃ w : Window,
    w.limit = page.limit ∧ w.offset.toInt = page.skipped := by
  have nonneg := served.skipped_nonneg
  have fits := served.fits
  unfold Amount.greatest at fits
  exact ⟨⟨page.limit, Int64.ofInt page.skipped⟩, rfl,
    Int64.toInt_ofInt_of_le (by omega) (by omega)⟩

end Page

/-! ### What is sent -/

/-- What is told of the accounts in a reply. -/
def listed (reply : Reply) : Response :=
  .of ((reply.accounts.mapError .ofStore).map fun accounts =>
    .array (accounts.map Account.toJson))

/-- A page of the accounts of an owner is asked for, and there is a reply or none. -/
def pageSent (owner : String) (page : Page) (reply : Option Reply) : Exchange :=
  .sent (.query .accountsOf [.text owner, .integer page.limit.toInt, .integer page.skipped]) reply

variable {p : Token.Payload} {r : Request} {page : Page} {log : List Exchange}
  {response : Option Response}

theorem listAccounts_eq (p : Token.Payload) (r : Request) :
    listAccounts p r = Handler.ofExcept (Page.ofQuery r.query >>= Page.window) >>= fun w =>
      store (accountsOf p.username w) >>= fun accounts =>
        pure (.array (accounts.map Account.toJson)) := rfl

theorem refusedAtOnce_of_window {message : String}
    (refused : Page.ofQuery r.query >>= Page.window = .error (.badRequest message)) :
    RefusedAtOnce (respond (listAccounts p r)).Goes := by
  rw [listAccounts_eq, refused]
  exact refusedAtOnce_badRequest message _

theorem goes_listAccounts_iff (asked : page.IsAskedBy r.query) (served : page.IsServed) :
    (respond (listAccounts p r)).Goes log response ↔
      ∃ reply, log = [pageSent p.username page reply] ∧ response = reply.map listed := by
  obtain ⟨w, limit, offset⟩ := served.exists_window
  have lists : listAccounts p r = store (accountsOf p.username w) >>= fun accounts =>
      pure (.array (accounts.map Account.toJson)) := by
    rw [listAccounts_eq, asked.window_iff.2 ⟨served, limit, offset⟩]
    rfl
  have sent (reply : Option Reply) : pageSent p.username page reply =
      .sent (.query .accountsOf (.text p.username :: w.arguments)) reply := by
    rw [pageSent, ← limit, ← offset]
    rfl
  simp only [sent]
  rw [lists, goes_respond_iff]
  constructor
  · rintro ⟨ending, goes, rfl⟩
    obtain ⟨_, stored, rfl⟩ := goes_map_iff.1 goes
    obtain ⟨_, asked, rfl⟩ := goes_store_iff.1 stored
    obtain ⟨reply, rfl, rfl⟩ := goes_send_iff.1 asked
    refine ⟨reply, rfl, ?_⟩
    cases reply <;> rfl
  · rintro ⟨reply, rfl, rfl⟩
    refine ⟨_, goes_map_iff.2 ⟨_, goes_store_iff.2 ⟨_, goes_send_iff.2 ⟨reply, rfl, rfl⟩, rfl⟩,
      rfl⟩, ?_⟩
    cases reply <;> rfl

theorem refusedAtOnce_iff (asked : page.IsAskedBy r.query) :
    RefusedAtOnce (respond (listAccounts p r)).Goes ↔ ¬page.IsServed := by
  constructor
  · rintro ⟨message, refused⟩ served
    have goes := (goes_listAccounts_iff (p := p) asked served).2 ⟨none, rfl, rfl⟩
    cases ((refused _ _).1 goes).1
  · intro unserved
    rcases Page.window_cases r.query with ⟨message, refused⟩ | ⟨w, windowed⟩
    · exact refusedAtOnce_of_window refused
    · exact absurd (asked.window_iff.1 windowed).1 unserved

theorem refusedAtOnce_of_unasked (none : ∀ page : Page, ¬page.IsAskedBy r.query) :
    RefusedAtOnce (respond (listAccounts p r)).Goes := by
  rcases Page.window_cases r.query with ⟨message, refused⟩ | ⟨w, windowed⟩
  · exact refusedAtOnce_of_window refused
  · obtain ⟨page, read, -⟩ := bind_eq_ok_iff.1 windowed
    exact absurd (Page.ofQuery_eq_ok_iff.1 read).1 (none page)

/-! ### What is listed -/

/-- A world stays as it is if its time is asked for and a statement that changes nothing. -/
theorem told_query {w : World Database} {s : Statement} {arguments : List Value} {reply : Reply}
    (executed : w.database.execute arguments s = (reply, w.database)) :
    Told (World.answer Database.reply) w
      [⟨.time .tokens, w.tokenTime⟩, .sent (.query s arguments) (some reply)] w := by
  let question : Question := .send (.query s arguments)
  have replied : World.answer Database.reply question w = (some reply, w) := by
    change (some (w.database.execute arguments s).1,
      { w with database := (w.database.execute arguments s).2 }) = _
    rw [executed]
  have told : Told (World.answer Database.reply) w [⟨.time .tokens, w.tokenTime⟩,
      ⟨question, (World.answer Database.reply question w).1⟩]
      (World.answer Database.reply question w).2 := .cons (.time .tokens) (.cons question (.nil _))
  rw [replied] at told
  exact told

/-- The accounts of a page are listed where the database has them, and nothing changes. -/
theorem perform_listAccounts {auth : Authority} {now : Timestamp} {db : Database} {tables : Tables}
    (route : GuardedEndpoint.listAccounts.IsAt r.method r.path)
    (admitted : Admits auth.maker now r.headers p) (asked : page.IsAskedBy r.query)
    (served : page.IsServed) {n k : Nat} (size : page.limit.toInt = n)
    (number : page.offset.toInt = k) (holds : db.Holds tables) {w : World Database}
    (time : w.tokenTime = now) (database : w.database = db) :
    w.perform (handle auth r) = (some (.ok (.array
      ((nthPage (tables.ownedBy p.username) n k).map Account.toJson))), w) := by
  subst time database
  obtain ⟨reply, executed, read⟩ := holds.execute_accountsOf p.username n (k * n)
  have skipped : page.skipped = ((k * n : Nat) : Int) := by
    rw [Page.skipped, number, size, Int.natCast_mul]
  have goes : (handle auth r).Goes [⟨.time .tokens, w.tokenTime⟩, pageSent p.username page reply]
      (some (listed reply)) :=
    (goes_admitted_iff route admitted).2
      ((goes_listAccounts_iff asked served).2 ⟨some reply, rfl, rfl⟩)
  have shown : listed reply = .ok (.array
      ((nthPage (tables.ownedBy p.username) n k).map Account.toJson)) := by
    rw [listed, read]
    rfl
  rw [pageSent, skipped, size, shown] at goes
  exact (goes.eq_of_told (told_query executed)).2

/-- Lists of accounts, asked for with a token. A query that asks for no page is turned away. One
that asks for a page is turned away exactly if the page is out of range, and otherwise one statement
is sent, with the exact count of the accounts that are skipped. Where the database has the accounts
of the subject, each page in range can be asked for, and the pages of each size up to the first
empty one are all of the accounts, each of them once and in the order of their numbers. -/
theorem pages_enumerate_accounts (auth : Authority) (r : Request) (now : Timestamp)
    (p : Token.Payload) (route : GuardedEndpoint.listAccounts.IsAt r.method r.path)
    (admitted : Admits auth.maker now r.headers p) :
    let listing := fun query => handle auth { r with query := query }
    let goes := fun query log => (listing query).Goes (⟨.time .tokens, now⟩ :: log)
    (∀ query, (∀ page : Page, ¬page.IsAskedBy query) → RefusedAtOnce (goes query)) ∧
    (∀ query (page : Page), page.IsAskedBy query →
      (RefusedAtOnce (goes query) ↔ page.offset.toInt < 0 ∨
        ¬(5 ≤ page.limit.toInt ∧ page.limit.toInt ≤ 100) ∨
        9223372036854775807 < page.offset.toInt * page.limit.toInt) ∧
      (¬RefusedAtOnce (goes query) → ∀ log response, goes query log response ↔
        ∃ reply, log = [.sent (.query .accountsOf [.text p.username, .integer page.limit.toInt,
            .integer (page.offset.toInt * page.limit.toInt)]) reply] ∧
          response = reply.map listed)) ∧
    ∀ (db : Database) (tables : Tables), db.Holds tables →
      let owned := tables.ownedBy p.username
      (owned.Perm ((tables .accounts).filter fun a => a.owner = p.username) ∧
        owned.Pairwise fun a b => a.id < b.id) ∧
      ∀ n : Nat, 5 ≤ n → n ≤ 100 →
        (∀ (k : Nat) (page : Page) query (w : World Database), page.offset.toInt = k →
          page.limit.toInt = n → k * n ≤ 9223372036854775807 → page.IsAskedBy query →
          w.tokenTime = now → w.database = db → w.perform (listing query) =
            (some (.ok (.array ((nthPage owned n k).map Account.toJson))), w)) ∧
        (∀ k : Nat, k * n ≤ 9223372036854775807 → ∃ (page : Page) (query : Option String),
          page.offset.toInt = k ∧ page.limit.toInt = n ∧ page.IsAskedBy query) ∧
        ∃ count, (∀ k < count, nthPage owned n k ≠ []) ∧ nthPage owned n count = [] ∧
          (List.range count).flatMap (nthPage owned n) = owned ∧
          count * n < owned.length + n := by
  intro listing goes
  have goesOn (query : Option String) :
      goes query = (respond (listAccounts p { r with query := query })).Goes :=
    funext fun log => funext fun response => propext
      (goes_admitted_iff (r := { r with query := query }) (e := .listAccounts) route admitted)
  simp only [goesOn]
  refine ⟨fun query none => refusedAtOnce_of_unasked none, fun query page asked => ⟨?_, ?_⟩,
    fun db tables holds => ⟨⟨tables.ownedBy_perm _, holds.ascending _⟩, fun n least most =>
      ⟨?_, fun k fits => Page.exists_isAskedBy least most fits,
        exists_first_empty _ (by omega)⟩⟩⟩
  · exact (refusedAtOnce_iff asked).trans Page.not_isServed_iff
  · intro kept log response
    exact goes_listAccounts_iff asked (not_not.1 (mt (refusedAtOnce_iff asked).2 kept))
  · intro k page query w number size fits asked time database
    have served := Page.isServed_of_fits number size least most fits
    exact perform_listAccounts (r := { r with query := query }) route admitted asked served size
      number holds time database

/-- Ada's two accounts are listed by their numbers, and Bob's is not. There is no page so far away
that its place is no integer. -/
theorem adas_accounts_paged :
    let listing := fun query =>
      { payment with method := "GET", path := "/accounts", query := some query }
    let savings : Account := ⟨3, "ada", "EUR", 100, .epoch⟩
    let current : Account := ⟨1, "ada", "USD", 20, .epoch⟩
    let db := Database.holding [savings, ⟨2, "bob", "USD", 7, .epoch⟩, current]
    (∀ w : World Database, w.tokenTime = .epoch → w.database = db →
      w.perform (handle vault (listing "offset=0&limit=5")) =
        (some (.ok (.array [current.toJson, savings.toJson])), w)) ∧
    RefusedAtOnce fun log => (handle vault (listing "offset=1844674407370955162&limit=5")).Goes
      (⟨.time .tokens, .epoch⟩ :: log) := by
  intro listing savings current db
  have route : GuardedEndpoint.listAccounts.IsAt (listing "").method (listing "").path :=
    .listAccounts
  have admitted : Admits vault.maker .epoch (listing "").headers adasPayload :=
    payment_admitted.2.2.2
  have holds : db.Holds (.ofAccounts [savings, ⟨2, "bob", "USD", 7, .epoch⟩, current]) :=
    .holding (by decide)
  have first : (⟨0, 5⟩ : Page).IsAskedBy (some "offset=0&limit=5") :=
    ⟨by decide +kernel, by decide +kernel⟩
  have far : (⟨1844674407370955162, 5⟩ : Page).IsAskedBy
      (some "offset=1844674407370955162&limit=5") := ⟨by decide +kernel, by decide +kernel⟩
  obtain ⟨-, sent, pages⟩ :=
    pages_enumerate_accounts vault (listing "") .epoch adasPayload route admitted
  refine ⟨fun w time database => ?_, (sent _ _ far).1.2 (by decide)⟩
  have listed := ((pages db _ holds).2 5 (by decide) (by decide)).1 0 ⟨0, 5⟩ _ w rfl rfl
    (by decide) first time database
  have both : nthPage ((Tables.ofAccounts
      [savings, ⟨2, "bob", "USD", 7, .epoch⟩, current]).ownedBy adasPayload.username) 5 0 =
        [current, savings] := by
    simp [nthPage, Tables.ownedBy, Tables.ofAccounts, adasPayload, savings, current,
      List.mergeSort]
  rw [both] at listed
  exact listed

end Teller.Gateway
