import Teller.Proofs.Except
import Teller.Proofs.Gateway.Gate

/-!
# Accounts of the subject

Whoever presents a token acts for its subject. Accounts are opened and listed under its name. An
account that a path names by a number is looked up first, and it is shown or deleted only if its row
has the name of the subject. Of all other rows nothing is told that is not in the path, and a number
that no account can have is not even looked up.
-/

namespace Teller.Gateway

open Store Interaction Handler

variable {p : Token.Payload} {r : Request} {segment : String} {log rest : List Exchange}

/-- Behind the gate the endpoint acts for the subject of the token. -/
theorem goes_admitted_iff {auth : Authority} {e : GuardedEndpoint} {now : Timestamp}
    {response : Option Response} (route : e.IsAt r.method r.path)
    (admitted : Admits auth.maker now r.headers p) :
    (handle auth r).Goes (⟨.time .tokens, now⟩ :: rest) response ↔
      (respond (actFor p r e)).Goes rest response := by
  obtain ⟨offered, whole⟩ := route.offered
  rw [handle_of_endpoint offered whole]
  refine goes_guarded_iff.trans ⟨?_, fun acts => ⟨now, rest, rfl, .inl ⟨p, admitted, acts⟩⟩⟩
  rintro ⟨now, rest, same, ⟨q, other, acts⟩ | ⟨failure, refused, -⟩⟩
  · cases same
    exact admitted.unique other ▸ acts
  · cases same
    exact absurd refused admitted.not_refused

/-! ### Opening and listing -/

/-- An account is opened for the subject, with a balance of zero, or nothing is sent. -/
theorem requests_openAccount {ending : Option (Except Failure Json.Value)}
    (h : (openAccount p r).run.Goes log ending) : requests log = [] ∨ ∃ currency,
      requests log = [.query .insertAccount [.text p.username, .text currency, .ofAmount 0]] := by
  rcases goes_ofExcept_bind_iff.1 h with ⟨form, -, opens⟩ | ⟨failure, -, rfl, -⟩
  · obtain ⟨reply, rfl, -⟩ := goes_store_first_iff.1 opens
    exact .inr ⟨form.currency, rfl⟩
  · exact .inl rfl

/-- Only accounts of the subject are asked for. -/
theorem requests_listAccounts {ending : Option (Except Failure Json.Value)}
    (h : (listAccounts p r).run.Goes log ending) : requests log = [] ∨ ∃ window : Window,
      requests log = [.query .accountsOf (.text p.username :: window.arguments)] := by
  rcases goes_ofExcept_bind_iff.1 h with ⟨window, -, lists⟩ | ⟨failure, -, rfl, -⟩
  · obtain ⟨_, listed, -⟩ := goes_map_iff.1 lists
    obtain ⟨_, asked, -⟩ := goes_store_iff.1 listed
    obtain ⟨reply, rfl, -⟩ := goes_send_iff.1 asked
    exact .inr ⟨window, rfl⟩
  · exact .inl rfl

/-! ### Looking up an account -/

/-- The number of an account in a path. -/
def accountNumber (segment : String) : Except Failure Int64 := do
  let n ← pathNumber segment
  if n.toInt < 1 then .error (.badRequest "id must be a positive integer") else .ok n

/-- What is said if an account is not found. -/
def lookupFailure (n : Int64) (e : Store.Error) : Failure :=
  if e.isNotFound then .notFound (absentAccount n) else .ofStore e

/-- The account, if it belongs to the subject. -/
def ofSubject (p : Token.Payload) (account : Account) : Except Failure Account :=
  if account.owner ≠ p.username then .error (notYours "account") else .ok account

/-- What a reply tells of the account with a number. -/
def lookedUp (p : Token.Payload) (n : Int64) (reply : Reply) : Except Failure Account :=
  (Statement.account.first Account.ofCells reply).mapError (lookupFailure n) >>= ofSubject p

theorem accountNumber_eq_ok_iff {n : Int64} :
    accountNumber segment = .ok n ↔ pathNumber segment = .ok n ∧ 1 ≤ n.toInt := by
  unfold accountNumber
  cases pathNumber segment with
  | error failure => exact ⟨nofun, fun h => nomatch h.1⟩
  | ok m =>
    change (if m.toInt < 1 then Except.error _ else .ok m) = _ ↔ _
    split
    · next small => exact ⟨nofun, fun ⟨same, large⟩ => by cases same; omega⟩
    · next large => exact ⟨fun same => by cases same; exact ⟨rfl, by omega⟩, fun h => h.1⟩

/-- The steps to an account of one's own: its number, its row and its owner. -/
theorem ownAccount_eq (p : Token.Payload) (segment : String) :
    ownAccount p segment = Handler.ofExcept (accountNumber segment) >>= fun n =>
      find (absentAccount n) (Store.account n.toInt) >>= fun account =>
        Handler.ofExcept (ofSubject p account) := by
  unfold ownAccount accountNumber
  have checked (account : Account) : (if account.owner ≠ p.username then
      (throw (notYours "account") : Handler PUnit) >>= fun _ => pure account else pure account) =
        Handler.ofExcept (ofSubject p account) := by
    unfold ofSubject
    split <;> rfl
  cases pathNumber segment with
  | error failure => rfl
  | ok n =>
    change (if n.toInt < 1 then _ else _) = Handler.ofExcept (if n.toInt < 1 then _ else _) >>= _
    by_cases small : n.toInt < 1
    · rw [if_pos small, if_pos small]
      rfl
    · rw [if_neg small, if_neg small]
      exact congrArg (find _ _ >>= ·) (funext checked)

/-- Nothing is sent for what is not the number of an account. For a number one row is looked up, and
the reply decides. -/
theorem goes_ownAccount_iff {ending : Option (Except Failure Account)} :
    (ownAccount p segment).run.Goes log ending ↔
      (∃ failure, accountNumber segment = .error failure ∧ log = [] ∧
        ending = some (.error failure)) ∨
      ∃ n reply, accountNumber segment = .ok n ∧
        log = [.sent (.query .account [.integer n.toInt]) reply] ∧
        ending = reply.map (lookedUp p n) := by
  rw [ownAccount_eq, goes_ofExcept_bind_iff, or_comm]
  refine or_congr_right (exists_congr fun n => ?_)
  rw [goes_bind_ofExcept_iff]
  constructor
  · rintro ⟨numbered, result, h, rfl⟩
    obtain ⟨answer, asked, rfl⟩ := goes_find_iff.1 h
    obtain ⟨reply, rfl, rfl⟩ := goes_send_iff.1 asked
    refine ⟨reply, numbered, rfl, ?_⟩
    cases reply <;> rfl
  · rintro ⟨reply, numbered, rfl, rfl⟩
    refine ⟨numbered, _, goes_find_iff.2 ⟨_, goes_send_iff.2 ⟨reply, rfl, rfl⟩, rfl⟩, ?_⟩
    cases reply <;> rfl

/-- All that can be said of the account with a number if it is not shown. -/
def refusals (n : Int64) : List Failure :=
  [.badRequest "id must be a positive integer", .notFound (absentAccount n), notYours "account",
    .notFound "Record not found", .forbidden "constraint violation", .unexplained]

/-- All that can be said of an account that is not shown, by what stands in the path. -/
def withheld (segment : String) : List Failure :=
  match pathNumber segment with
  | .error failure => [failure]
  | .ok n => refusals n

theorem ofStore_mem_refusals (n : Int64) (e : Store.Error) : Failure.ofStore e ∈ refusals n := by
  unfold refusals Failure.ofStore
  split
  · simp
  · split <;> simp

theorem mem_withheld_of_accountNumber {failure : Failure}
    (h : accountNumber segment = .error failure) : failure ∈ withheld segment := by
  unfold accountNumber at h
  unfold withheld
  cases number : pathNumber segment with
  | error other =>
    rw [number] at h
    cases h
    exact List.mem_singleton_self _
  | ok n =>
    rw [number] at h
    change (if n.toInt < 1 then Except.error _ else .ok n) = _ at h
    split at h
    · cases h
      exact List.mem_cons_self
    · cases h

/-- An account is found if the reply has a row of it that belongs to the subject. -/
theorem lookedUp_eq_ok_iff {n : Int64} {reply : Reply} {account : Account} :
    lookedUp p n reply = .ok account ↔
      Statement.account.first Account.ofCells reply = .ok account ∧
        account.owner = p.username := by
  rw [lookedUp, bind_eq_ok_iff]
  constructor
  · rintro ⟨found, read, owned⟩
    rw [mapError_eq_ok_iff] at read
    unfold ofSubject at owned
    split at owned
    · cases owned
    · next own =>
      cases owned
      exact ⟨read, not_ne_iff.1 own⟩
  · rintro ⟨read, own⟩
    exact ⟨account, mapError_eq_ok_iff.2 read, if_neg (not_not_intro own)⟩

/-- What is told of an account that cannot be had is chosen from what its number allows. -/
theorem mem_refusals_of_lookedUp {n : Int64} {reply : Reply} {failure : Failure}
    (h : lookedUp p n reply = .error failure) : failure ∈ refusals n := by
  unfold lookedUp at h
  cases read : Statement.account.first Account.ofCells reply with
  | error e =>
    rw [read] at h
    cases h
    unfold lookupFailure
    split
    · simp [refusals]
    · exact ofStore_mem_refusals n e
  | ok account =>
    rw [read] at h
    change (if account.owner ≠ p.username then Except.error _ else .ok account) = _ at h
    split at h
    · cases h
      simp [refusals]
    · cases h

/-! ### Showing and deleting -/

/-- A row was asked for by the number in the path, and one was found that belongs to the subject. -/
def Finds (p : Token.Payload) (segment : String) (e : Exchange) (account : Account) : Prop :=
  ∃ n, pathNumber segment = .ok n ∧ 1 ≤ n.toInt ∧
    e.Tells .account [.integer n.toInt] Account.ofCells account ∧ account.owner = p.username

/-- Nothing was asked for, or one row by the number in the path. -/
def AsksFirst (segment : String) (log : List Exchange) : Prop :=
  requests log = [] ∨ ∃ n, pathNumber segment = .ok n ∧ 1 ≤ n.toInt ∧
    (requests log).head? = some (.query .account [.integer n.toInt])

/-- What may be sent and answered about the account that a path names. -/
structure Confined (p : Token.Payload) (segment : String) (log : List Exchange)
    (response : Option Response) : Prop where
  asked : AsksFirst segment log
  told : ∀ answer, response = some answer →
    (∃ failure ∈ withheld segment, answer = .ofFailure failure) ∨
      ∃ first account, log.head? = some first ∧ Finds p segment first account ∧
        answer = .ok account.toJson
  removed : (requests log).tail = [] ∨
    ∃ first account, log.head? = some first ∧ Finds p segment first account ∧
      (requests log).tail = [.query .deleteAccount [.integer account.id]]

/-- A lookup is refused or not answered, or the account is found. -/
theorem ownAccount_cases {ending : Option (Except Failure Account)}
    (h : (ownAccount p segment).run.Goes log ending) :
    (AsksFirst segment log ∧ (requests log).tail = [] ∧
      ∀ result, ending = some result → ∃ failure ∈ withheld segment, result = .error failure) ∨
    ∃ first account, log = [first] ∧ Finds p segment first account ∧ ending = some (.ok account) := by
  rcases goes_ownAccount_iff.1 h with
    ⟨failure, unnumbered, rfl, rfl⟩ | ⟨n, reply, numbered, rfl, rfl⟩
  · refine .inl ⟨.inl rfl, rfl, fun result same => ⟨failure, ?_, (Option.some.inj same).symm⟩⟩
    exact mem_withheld_of_accountNumber unnumbered
  · obtain ⟨number, positive⟩ := accountNumber_eq_ok_iff.1 numbered
    have asks : AsksFirst segment [.sent (.query .account [.integer n.toInt]) reply] :=
      .inr ⟨n, number, positive, rfl⟩
    cases reply with
    | none => exact .inl ⟨asks, rfl, by simp⟩
    | some reply =>
      cases looked : lookedUp p n reply with
      | error failure =>
        refine .inl ⟨asks, rfl, fun result same => ⟨failure, ?_, ?_⟩⟩
        · rw [withheld, number]
          exact mem_refusals_of_lookedUp looked
        · rw [← looked]
          exact (Option.some.inj same).symm
      | ok account =>
        obtain ⟨read, own⟩ := lookedUp_eq_ok_iff.1 looked
        obtain ⟨row, rows, rfl, told⟩ := Statement.first_eq_ok_iff.1 read
        have finds : Finds p segment
            (.sent (.query .account [.integer n.toInt]) (some (.rows (row :: rows)))) account :=
          ⟨n, number, positive, ⟨row, rows, rfl, told⟩, own⟩
        exact .inr ⟨_, account, rfl, finds, congrArg some looked⟩

theorem AsksFirst.of_finds {first : Exchange} {account : Account}
    (finds : Finds p segment first account) : AsksFirst segment (first :: rest) := by
  obtain ⟨n, number, positive, ⟨row, rows, rfl, -⟩, -⟩ := finds
  exact .inr ⟨n, number, positive, rfl⟩

theorem requests_of_finds {first : Exchange} {account : Account}
    (finds : Finds p segment first account) : (requests (first :: rest)).tail = requests rest := by
  obtain ⟨n, -, -, ⟨row, rows, rfl, -⟩, -⟩ := finds
  rfl

/-- Where no account is found, nothing is told. -/
theorem Confined.of_refused {ending : Option (Except Failure Json.Value)}
    (asks : AsksFirst segment log) (nothing : (requests log).tail = [])
    (refused : ∀ result, ending = some result → ∃ failure ∈ withheld segment,
      result = .error failure) : Confined p segment log (ending.map Response.of) where
  asked := asks
  told answer same := by
    obtain ⟨result, ended, rfl⟩ := Option.map_eq_some_iff.1 same
    obtain ⟨failure, known, rfl⟩ := refused result ended
    exact .inl ⟨failure, known, rfl⟩
  removed := .inl nothing

theorem confined_readAccount {response : Option Response}
    (h : (respond (readAccount p segment)).Goes log response) :
    Confined p segment log response ∧ (requests log).tail = [] := by
  obtain ⟨_, shown, rfl⟩ := goes_respond_iff.1 h
  obtain ⟨ending, looked, rfl⟩ := goes_map_iff.1 shown
  rcases ownAccount_cases looked with
    ⟨asks, nothing, refused⟩ | ⟨first, account, rfl, finds, rfl⟩
  · refine ⟨.of_refused asks nothing fun result same => ?_, nothing⟩
    obtain ⟨result, ended, rfl⟩ := Option.map_eq_some_iff.1 same
    obtain ⟨failure, known, rfl⟩ := refused result ended
    exact ⟨failure, known, rfl⟩
  · have nothing : (requests [first]).tail = [] := requests_of_finds finds
    refine ⟨⟨.of_finds finds, fun answer same => ?_, .inl nothing⟩, nothing⟩
    exact .inr ⟨first, account, rfl, finds, (Option.some.inj same).symm⟩

/-- What is sent to delete an account, and what can come of it. -/
theorem deletion_cases {account : Account} {ending : Option (Except Failure Json.Value)}
    (h : (store (Store.deleteAccount account.id) >>= fun _ =>
      (pure account.toJson : Handler Json.Value)).run.Goes log ending) :
    requests log = [.query .deleteAccount [.integer account.id]] ∧
      ∀ result, ending = some result →
        (∃ e, result = .error (.ofStore e)) ∨ result = .ok account.toJson := by
  obtain ⟨_, stored, rfl⟩ := goes_map_iff.1 h
  obtain ⟨outcome, sent, rfl⟩ := goes_store_iff.1 stored
  have asked : requests log = [.query .deleteAccount [.integer account.id]] := by
    obtain ⟨reply, rfl, -⟩ := goes_send_iff.1 sent
    rfl
  refine ⟨asked, fun result same => ?_⟩
  rcases outcome with _ | e | done
  · simp at same
  · exact .inl ⟨e, (Option.some.inj same).symm⟩
  · exact .inr (Option.some.inj same).symm

theorem confined_closeAccount {response : Option Response}
    (h : (respond (closeAccount p segment)).Goes log response) :
    Confined p segment log response := by
  obtain ⟨ending, closed, rfl⟩ := goes_respond_iff.1 h
  rcases goes_bind_cases closed with
    ⟨stalls, rfl⟩ | ⟨failure, fails, rfl⟩ | ⟨account, front, back, rfl, looked, deletes⟩
  · rcases ownAccount_cases stalls with ⟨asks, nothing, -⟩ | ⟨first, account, -, -, impossible⟩
    · exact .of_refused asks nothing nofun
    · cases impossible
  · rcases ownAccount_cases fails with
      ⟨asks, nothing, refused⟩ | ⟨first, account, -, -, impossible⟩
    · refine .of_refused asks nothing fun result same => ?_
      cases same
      obtain ⟨_, known, same⟩ := refused _ rfl
      cases same
      exact ⟨failure, known, rfl⟩
    · cases impossible
  · rcases ownAccount_cases looked with ⟨-, -, refused⟩ | ⟨first, _, rfl, finds, same⟩
    · obtain ⟨_, -, impossible⟩ := refused _ rfl
      cases impossible
    cases same
    obtain ⟨asked, outcome⟩ := deletion_cases deletes
    refine ⟨.of_finds finds, fun answer same => ?_,
      .inr ⟨first, account, rfl, finds, (requests_of_finds finds).trans asked⟩⟩
    obtain ⟨result, ended, rfl⟩ := Option.map_eq_some_iff.1 same
    rcases outcome result ended with ⟨e, rfl⟩ | rfl
    · obtain ⟨n, number, -⟩ := finds
      refine .inl ⟨.ofStore e, ?_, rfl⟩
      rw [withheld, number]
      exact ofStore_mem_refusals n e
    · exact .inr ⟨first, account, rfl, finds, rfl⟩

/-- An account that is found is deleted if the database does not object. -/
theorem goes_closeAccount {first : Exchange} {account : Account}
    (finds : Finds p segment first account) {reply : Reply} {count : Nat}
    (counted : reply.count? = .ok count) (some_row : count ≠ 0) :
    (respond (closeAccount p segment)).Goes
      [first, .sent (.query .deleteAccount [.integer account.id]) (some reply)]
      (some (.ok account.toJson)) := by
  have deleted : (Store.deleteAccount account.id).Goes
      [.sent (.query .deleteAccount [.integer account.id]) (some reply)] (some (.ok ())) := by
    refine goes_send_iff.2 ⟨some reply, rfl, congrArg some ?_⟩
    dsimp only
    rw [counted]
    exact (if_neg some_row).symm
  obtain ⟨n, number, positive, ⟨row, rows, rfl, read⟩, own⟩ := finds
  have looked : lookedUp p n (.rows (row :: rows)) = .ok account :=
    lookedUp_eq_ok_iff.2 ⟨Statement.first_eq_ok_iff.2 ⟨row, rows, rfl, read⟩, own⟩
  have passes : (ownAccount p segment).run.Goes
      [.sent (.query .account [.integer n.toInt]) (some (.rows (row :: rows)))]
      (some (.ok account)) :=
    goes_ownAccount_iff.2 (.inr ⟨n, _, accountNumber_eq_ok_iff.2 ⟨number, positive⟩, rfl,
      congrArg some looked.symm⟩)
  exact goes_respond_iff.2 ⟨_, goes_bind _ passes
    (goes_map_iff.2 ⟨_, goes_store_iff.2 ⟨_, deleted, rfl⟩, rfl⟩), rfl⟩

/-! ### Accounts of others -/

/-- A row that reads as an account, but not of the subject. -/
def IsForeign (p : Token.Payload) (row : List Value) : Prop :=
  ∃ account, Account.ofCells (Account.columns.zip row) = .ok account ∧ account.owner ≠ p.username

/-- The row of an account was asked for, and this one came first. -/
def rowFound (n : Id) (row : List Value) (rows : List (List Value)) : Exchange :=
  .sent (.query .account [.integer n]) (some (.rows (row :: rows)))

section

variable {n : Id} {row : List Value} {rows : List (List Value)}

/-- Whatever else such a row has, it is not yours. -/
theorem lookedUp_foreign (foreign : IsForeign p row) (rows : List (List Value)) (m : Int64) :
    lookedUp p m (.rows (row :: rows)) = .error (notYours "account") := by
  obtain ⟨account, read, other⟩ := foreign
  have found : Statement.account.first Account.ofCells (.rows (row :: rows)) = .ok account :=
    Statement.first_eq_ok_iff.2 ⟨row, rows, rfl, read⟩
  rw [lookedUp, found]
  exact if_pos other

theorem goes_ownAccount_foreign_iff (foreign : IsForeign p row)
    {ending : Option (Except Failure Account)} :
    (ownAccount p segment).run.Goes (rowFound n row rows :: rest) ending ↔
      (∃ m, accountNumber segment = .ok m ∧ m.toInt = n) ∧ rest = [] ∧
        ending = some (.error (notYours "account")) := by
  rw [goes_ownAccount_iff]
  constructor
  · rintro (⟨_, -, impossible, -⟩ | ⟨m, reply, numbered, same, rfl⟩)
    · cases impossible
    · cases same
      exact ⟨⟨m, numbered, rfl⟩, rfl, congrArg some (lookedUp_foreign foreign rows m)⟩
  · rintro ⟨⟨m, numbered, rfl⟩, rfl, rfl⟩
    exact .inr ⟨m, _, numbered, rfl, (congrArg some (lookedUp_foreign foreign rows m)).symm⟩

/-- Whatever is to be done with an account, nothing of a row that belongs to somebody else decides
what is sent and answered. -/
theorem goes_foreign_iff (foreign : IsForeign p row) {act : Account → Handler Json.Value}
    {response : Option Response} :
    (respond (ownAccount p segment >>= act)).Goes (rowFound n row rows :: rest) response ↔
      (∃ m, accountNumber segment = .ok m ∧ m.toInt = n) ∧ rest = [] ∧
        response = some (.ofFailure (notYours "account")) := by
  rw [goes_respond_iff]
  constructor
  · rintro ⟨ending, goes, rfl⟩
    rcases goes_bind_cases goes with
      ⟨stalls, -⟩ | ⟨failure, fails, rfl⟩ | ⟨account, front, back, split, passes, -⟩
    · obtain ⟨-, -, impossible⟩ := (goes_ownAccount_foreign_iff foreign).1 stalls
      cases impossible
    · obtain ⟨numbered, nothing, same⟩ := (goes_ownAccount_foreign_iff foreign).1 fails
      cases same
      exact ⟨numbered, nothing, rfl⟩
    · -- No account is the subject's where the row is not.
      rcases goes_ownAccount_iff.1 passes with ⟨_, -, -, impossible⟩ | ⟨m, reply, -, rfl, same⟩
      · cases impossible
      · cases split
        rw [Option.map_some, lookedUp_foreign foreign] at same
        cases same
  · rintro ⟨numbered, nothing, rfl⟩
    exact ⟨_, goes_bind_error ((goes_ownAccount_foreign_iff foreign).2 ⟨numbered, nothing, rfl⟩),
      rfl⟩

end

/-- Whoever presents a token, and whatever the database replies: accounts are opened for the subject
and with nothing on them, and listed by its name. Of an account that a path names, nothing is sent
unless it is named by a positive number; it is shown only from a row of the subject that was found
under that number, and nothing else is told that is not in the path; and it is deleted only if such a
row was found, and under the number of that row. If a row is found that belongs to somebody else,
nothing else is sent, and the answer is the same for each such row. -/
theorem accounts_act_for_subject (auth : Authority) (r : Request) (now : Timestamp)
    (p : Token.Payload) (admitted : Admits auth.maker now r.headers p) :
    (∀ rest response, (handle auth r).Goes (⟨.time .tokens, now⟩ :: rest) response →
      (GuardedEndpoint.openAccount.IsAt r.method r.path →
        requests rest = [] ∨ ∃ currency, requests rest =
          [.query .insertAccount [.text p.username, .text currency, .ofAmount 0]]) ∧
      (GuardedEndpoint.listAccounts.IsAt r.method r.path →
        requests rest = [] ∨ ∃ window : Window, requests rest =
          [.query .accountsOf (.text p.username :: window.arguments)]) ∧
      ∀ segment,
        ((GuardedEndpoint.readAccount segment).IsAt r.method r.path →
          Confined p segment rest response ∧ (requests rest).tail = []) ∧
        ((GuardedEndpoint.closeAccount segment).IsAt r.method r.path →
          Confined p segment rest response)) ∧
    ∀ segment, (GuardedEndpoint.readAccount segment).IsAt r.method r.path ∨
        (GuardedEndpoint.closeAccount segment).IsAt r.method r.path →
      ∀ row rows row' rows', IsForeign p row → IsForeign p row' → ∀ n rest response,
        let goes row rows := (handle auth r).Goes
          (⟨.time .tokens, now⟩ :: rowFound n row rows :: rest) response
        (goes row rows ↔ goes row' rows') ∧
          (goes row rows ↔ (∃ m, pathNumber segment = .ok m ∧ 1 ≤ m.toInt ∧ m.toInt = n) ∧
            rest = [] ∧ response = some (.ofFailure (notYours "account"))) := by
  constructor
  · intro rest response goes
    refine ⟨fun route => ?_, fun route => ?_, fun segment => ⟨fun route => ?_, fun route => ?_⟩⟩
    all_goals rw [goes_admitted_iff route admitted] at goes
    · obtain ⟨_, opens, -⟩ := goes_respond_iff.1 goes
      exact requests_openAccount opens
    · obtain ⟨_, lists, -⟩ := goes_respond_iff.1 goes
      exact requests_listAccounts lists
    · exact confined_readAccount goes
    · exact confined_closeAccount goes
  · intro segment route row rows row' rows' foreign foreign' n rest response goes
    -- What comes of the one row does not mention it, so two rows are compared through that.
    have same (row : List Value) (rows : List (List Value)) (foreign : IsForeign p row) :
        goes row rows ↔ (∃ m, pathNumber segment = .ok m ∧ 1 ≤ m.toInt ∧ m.toInt = n) ∧
          rest = [] ∧ response = some (.ofFailure (notYours "account")) := by
      have numbered : (∃ m, accountNumber segment = .ok m ∧ m.toInt = n) ↔
          ∃ m, pathNumber segment = .ok m ∧ 1 ≤ m.toInt ∧ m.toInt = n := by
        simp only [accountNumber_eq_ok_iff, and_assoc]
      rw [← numbered]
      rcases route with route | route
      · exact (goes_admitted_iff route admitted).trans (goes_foreign_iff foreign)
      · exact (goes_admitted_iff route admitted).trans (goes_foreign_iff foreign)
    exact ⟨(same row rows foreign).trans (same row' rows' foreign').symm, same row rows foreign⟩

/-- Ada asks for an account to be deleted. -/
def closing (segment : String) : Request :=
  { payment with method := "DELETE", path := "/accounts/" ++ segment }

/-- A row of account 1. -/
def accountRow (owner : String) (balance : Int) : List Value :=
  [.integer 1, .text owner, .text "USD", .integer balance, .instant .epoch]

/-- Ada deletes an account of hers. If account 1 is Bob's, she is told the same, be it full or
empty. -/
theorem accounts_act_for_ada :
    Admits vault.maker .epoch (closing "1").headers adasPayload ∧
    (∃ rest account, (handle vault (closing "1")).Goes (⟨.time .tokens, .epoch⟩ :: rest)
        (some (.ok account)) ∧ requests rest =
          [.query .account [.integer 1], .query .deleteAccount [.integer 1]] ∧
        Confined adasPayload "1" rest (some (.ok account))) ∧
    ∀ balance ∈ [0, 50], (handle vault (closing "1")).Goes
      [⟨.time .tokens, .epoch⟩, rowFound 1 (accountRow "bob" balance) []]
      (some (.ofFailure (notYours "account"))) := by
  have admitted : Admits vault.maker .epoch (closing "1").headers adasPayload :=
    authenticate_eq_ok_iff_admits.1 payment_presents
  have route : (GuardedEndpoint.closeAccount "1").IsAt (closing "1").method (closing "1").path :=
    .closeAccount (by decide) (by decide)
  have number : pathNumber "1" = .ok 1 := by
    have read : (pathNumber "1").toOption = some 1 := by decide +kernel
    cases h : pathNumber "1" with
    | error failure => rw [h] at read; cases read
    | ok n => rw [h] at read; cases read; rfl
  obtain ⟨confined, alike⟩ := accounts_act_for_subject vault (closing "1") .epoch adasPayload admitted
  refine ⟨admitted, ?_, fun balance listed => ?_⟩
  · have finds : Finds adasPayload "1" (rowFound 1 (accountRow "ada" 0) [])
        ⟨1, "ada", "USD", 0, .epoch⟩ := ⟨1, number, by decide, ⟨_, _, rfl, rfl⟩, rfl⟩
    have one : (Reply.affected 1).count? = .ok 1 := rfl
    have goes := (goes_admitted_iff route admitted).2 (goes_closeAccount finds one (by decide))
    exact ⟨_, _, goes, rfl, ((confined _ _ goes).2.2 "1").2 route⟩
  · have foreign (balance : Int) (listed : balance ∈ [(0 : Int), 50]) :
        IsForeign adasPayload (accountRow "bob" balance) := by
      simp only [List.mem_cons, List.not_mem_nil, or_false] at listed
      rcases listed with rfl | rfl
      · exact ⟨⟨1, "bob", "USD", 0, .epoch⟩, rfl, by decide⟩
      · exact ⟨⟨1, "bob", "USD", 50, .epoch⟩, rfl, by decide⟩
    have told := alike "1" (.inr route) _ [] _ [] (foreign balance listed)
      (foreign 0 List.mem_cons_self) 1 [] (some (.ofFailure (notYours "account")))
    exact told.2.2 ⟨⟨1, number, by decide, by decide⟩, rfl, rfl⟩

end Teller.Gateway
