import Teller.Proofs.Token.RoundTrip

/-!
# Which texts are tokens

To its maker a text is genuine, and then good until it expires, or it is invalid at all times. The
genuine texts of each kind are described here without the steps of reading them: the signature of a
signed token is one of all that stands before it, and a sealed token is the one text of its nonce
and plaintext.

So a signed token that is cut short, lengthened or signed otherwise is invalid even where it would
have expired, and a sealed token has no second spelling.
-/

namespace Teller.Token

/-! ### Verdicts -/

namespace Maker

variable {maker : Maker} {text : String}

theorem verify_of_not_authentic (h : maker.authentic? text = none) (now : Timestamp) :
    maker.verify text now = .error .invalid := by
  rw [verify, h]

/-- A genuine token is judged by its expiry alone. -/
theorem verify_of_authentic {p : Payload} (h : maker.authentic? text = some p) (now : Timestamp) :
    maker.verify text now = if p.expiredAt < now then .error .expired else .ok p := by
  simp only [verify, h, Payload.checkExpiry]
  split <;> rfl

theorem verify_eq_ok_iff {now : Timestamp} {p : Payload} :
    maker.verify text now = .ok p ↔ maker.authentic? text = some p ∧ now ≤ p.expiredAt := by
  cases found : maker.authentic? text with
  | none => simp [verify_of_not_authentic found]
  | some q =>
    rw [verify_of_authentic found, Option.some.injEq]
    split
    · next late =>
      refine ⟨nofun, ?_⟩
      rintro ⟨rfl, inTime⟩
      exact absurd late (Int.not_lt.2 inTime)
    · next early =>
      rw [Except.ok.injEq, iff_self_and]
      rintro rfl
      exact Int.not_lt.1 early

theorem verify_eq_expired_iff {now : Timestamp} : maker.verify text now = .error .expired ↔
    ∃ p, maker.authentic? text = some p ∧ p.expiredAt < now := by
  cases found : maker.authentic? text with
  | none => simp [verify_of_not_authentic found]
  | some q => simp [verify_of_authentic found]

/-- Invalid is what is not genuine, at any time. -/
theorem verify_eq_invalid_iff {now : Timestamp} :
    maker.verify text now = .error .invalid ↔ maker.authentic? text = none := by
  cases found : maker.authentic? text with
  | none => simp [verify_of_not_authentic found]
  | some q =>
    rw [verify_of_authentic found]
    split <;> simp

/-- A token is refused as invalid or as expired. -/
theorem verify_cases (maker : Maker) (text : String) (now : Timestamp) :
    (∃ q, maker.verify text now = .ok q) ∨ maker.verify text now = .error .invalid ∨
      maker.verify text now = .error .expired := by
  cases found : maker.authentic? text with
  | none => exact .inr (.inl (verify_of_not_authentic found now))
  | some q =>
    rw [verify_of_authentic found]
    split
    · exact .inr (.inr rfl)
    · exact .inl ⟨q, rfl⟩

/-- What a maker says of each text at each time, if `genuine` tells which texts are genuine and what
they say. -/
structure Judges (maker : Maker) (genuine : String → Payload → Prop) : Prop where
  accepted : ∀ text now p, maker.verify text now = .ok p ↔ genuine text p ∧ now ≤ p.expiredAt
  expired : ∀ text now, maker.verify text now = .error .expired ↔
    ∃ p, genuine text p ∧ p.expiredAt < now
  invalid : ∀ text now, maker.verify text now = .error .invalid ↔ ¬∃ p, genuine text p

theorem judges_of_authentic {genuine : String → Payload → Prop}
    (h : ∀ text p, maker.authentic? text = some p ↔ genuine text p) : maker.Judges genuine where
  accepted text now p := by rw [verify_eq_ok_iff, h]
  expired text now := by simp only [verify_eq_expired_iff, h]
  invalid text now := by
    simp only [verify_eq_invalid_iff, Option.eq_none_iff_forall_ne_some, ne_eq, h, not_exists]

end Maker

/-! ### Signed tokens -/

namespace Signed

theorem cutLast_of_not_mem {text : List Char} (h : '.' ∉ text) : cutLast text = none := by
  have letters : ∀ c ∈ text.reverse, decide (c ≠ '.') = true := by
    intro c hc
    exact decide_eq_true fun point => h (point ▸ List.mem_reverse.1 hc)
  rw [cutLast, List.span_eq_takeWhile_dropWhile, List.dropWhile_eq_nil_iff.2 letters]

/-- A text is cut at the point that no other point follows. -/
theorem cutLast_eq_some_iff {text message tail : List Char} :
    cutLast text = some (message, tail) ↔ text = message ++ '.' :: tail ∧ '.' ∉ tail := by
  constructor
  · intro h
    by_cases point : '.' ∈ text
    · obtain ⟨after, before, same, last⟩ := List.eq_append_cons_of_mem (List.mem_reverse.2 point)
      have joined : text = before.reverse ++ '.' :: after.reverse := by
        rw [← List.reverse_reverse text, same]
        simp
      rw [joined, cutLast_append (by simpa using last)] at h
      cases h
      exact ⟨joined, by simpa using last⟩
    · rw [cutLast_of_not_mem point] at h
      cases h
  · rintro ⟨rfl, last⟩
    exact cutLast_append last

/-- What base64 reads has no point in it. -/
theorem point_not_mem_of_decode {segment : List Char} {bytes : List UInt8}
    (h : Base64.decode Base64.urlSafe segment = some bytes) : '.' ∉ segment := by
  obtain rfl := Base64.decode_urlSafe_iff.1 h
  exact point_not_mem_segment bytes

theorem algorithmOf?_eq_some_iff {segment : List Char} {name : String} :
    algorithmOf? segment = some name ↔
      ∃ bytes, Base64.decode Base64.urlSafe segment = some bytes ∧
        Json.Reader.all Header.reader bytes = .ok name := by
  have read (bytes : List UInt8) : Header.algorithmOf? bytes = some name ↔
      Json.Reader.all Header.reader bytes = .ok name := by
    cases h : Json.Reader.all Header.reader bytes <;> simp [Header.algorithmOf?, h, Except.toOption]
  simp only [algorithmOf?, Option.bind_eq_some_iff, read]

theorem acceptable_iff {bytes : List UInt8} : Claims.acceptable bytes = true ↔
    ∃ claims, Json.Reader.all Claims.reader bytes = .ok claims ∧ claims.hasExpiry = true ∧
      claims.hasAudience = false := by
  cases h : Json.Reader.all Claims.reader bytes <;> simp [Claims.acceptable, h]

theorem payloadOf?_eq_some_iff {segment : List Char} {p : Payload} :
    payloadOf? segment = some p ↔
      ∃ bytes, Base64.decode Base64.urlSafe segment = some bytes ∧
        Payload.ofJson? bytes = some p ∧
        ∃ claims, Json.Reader.all Claims.reader bytes = .ok claims ∧ claims.hasExpiry = true ∧
          claims.hasAudience = false := by
  simp only [payloadOf?, Option.bind_eq_bind, Option.bind_eq_some_iff,
    Option.ite_none_right_eq_some, Option.some.injEq, acceptable_iff]
  constructor
  · rintro ⟨bytes, decoded, _, told, claims, rfl⟩
    exact ⟨bytes, decoded, told, claims⟩
  · rintro ⟨bytes, decoded, told, claims⟩
    exact ⟨bytes, decoded, p, told, claims, rfl⟩

/-- What makes three runs of letters a signed token that says `p`: the first names the algorithm,
the second names an expiry that is no negative number and no audience, and the third is the
authentication code of the two with the point between them. -/
structure AreGenuine (key : Key) (head body tail : List Char) (p : Payload) : Prop where
  head_pointless : '.' ∉ head
  body_pointless : '.' ∉ body
  tail_pointless : '.' ∉ tail
  header : ∃ bytes, Base64.decode Base64.urlSafe head = some bytes ∧
    Json.Reader.all Header.reader bytes = .ok "HS256"
  claims : ∃ bytes, Base64.decode Base64.urlSafe body = some bytes ∧
    Payload.ofJson? bytes = some p ∧
    ∃ claims, Json.Reader.all Claims.reader bytes = .ok claims ∧ claims.hasExpiry = true ∧
      claims.hasAudience = false
  signature : tail = Base64.encode Base64.urlSafe
    (Crypto.Sha256.hmac key.bytes (Utf8.encode (head ++ '.' :: body)))

/-- A text is a signed token that says `p`. -/
def Genuine (key : Key) (text : String) (p : Payload) : Prop :=
  ∃ head body tail, text.toList = head ++ '.' :: body ++ '.' :: tail ∧
    AreGenuine key head body tail p

/-- The payload is found in the genuine texts and in no others. -/
theorem authentic?_eq_some_iff {key : Key} {text : String} {p : Payload} :
    authentic? key text.toList = some p ↔ Genuine key text p := by
  unfold authentic?
  simp only [Option.bind_eq_bind, Option.bind_eq_some_iff, Prod.exists, cutLast_eq_some_iff,
    algorithmOf?_eq_some_iff, Option.ite_none_right_eq_some, payloadOf?_eq_some_iff]
  constructor
  · rintro ⟨message, tail, ⟨cut, last⟩, head, body, ⟨rfl, inner⟩, name, header, ⟨rfl, rfl⟩, claims⟩
    -- The first part could have points of its own, if it were not base64.
    have outer : '.' ∉ head := point_not_mem_of_decode header.choose_spec.1
    exact ⟨head, body, _, cut, outer, inner, last, header, claims, rfl⟩
  · rintro ⟨head, body, tail, cut, parts⟩
    exact ⟨_, tail, ⟨cut, parts.tail_pointless⟩, head, body, ⟨rfl, parts.body_pointless⟩, _,
      parts.header, ⟨rfl, parts.signature⟩, parts.claims⟩

/-! ### Altered tokens -/

variable {key : Key} {text : String} {p : Payload}

/-- A genuine token has three parts. -/
theorem Genuine.count_points (h : Genuine key text p) : text.toList.count '.' = 2 := by
  obtain ⟨head, body, tail, cut, parts⟩ := h
  simp [cut, List.count_eq_zero.2 parts.head_pointless, List.count_eq_zero.2 parts.body_pointless,
    List.count_eq_zero.2 parts.tail_pointless]

/-- What follows a message with one point can only be its signature. -/
theorem Genuine.tail_eq (h : Genuine key text p) {message tail : List Char}
    (same : text.toList = message ++ '.' :: tail) (one : message.count '.' = 1) :
    tail = signature key message := by
  have last : '.' ∉ tail := by
    have two := h.count_points
    rw [same, List.count_append, List.count_cons_self, one] at two
    exact List.count_eq_zero.1 (by omega)
  obtain ⟨head, body, tail', cut, parts⟩ := h
  have cuts : cutLast (message ++ '.' :: tail) = some (message, tail) := cutLast_append last
  rw [← same, cut, cutLast_append parts.tail_pointless] at cuts
  cases cuts
  exact parts.signature

/-- A token that was cut short, lengthened, or had what follows its last point replaced. -/
inductive Altered (token : List Char) : List Char → Prop where
  | shortened {text : List Char} (front : text <+: token) (other : text ≠ token) :
      Altered token text
  | lengthened {text : List Char} (front : token <+: text) (other : text ≠ token) :
      Altered token text
  | resigned {message tail tail' : List Char} (cut : token = message ++ '.' :: tail)
      (last : '.' ∉ tail) (other : tail' ≠ tail) : Altered token (message ++ '.' :: tail')

/-- What was altered has lost a point, or has the old message before another signature. -/
theorem Altered.cases_of_cut {message tail text : List Char} (last : '.' ∉ tail)
    (h : Altered (message ++ '.' :: tail) text) :
    text.count '.' ≤ message.count '.' ∨
      ∃ tail', text = message ++ '.' :: tail' ∧ tail' ≠ tail := by
  cases h with
  | shortened front other =>
    rcases List.prefix_or_prefix_of_prefix front (List.prefix_append _ _) with short | ⟨rest, rfl⟩
    · exact .inl (short.sublist.count_le _)
    · cases rest with
      | nil => simp
      | cons c rest =>
        obtain ⟨rfl, -⟩ := List.cons_prefix_cons.1 ((List.prefix_append_right_inj _).1 front)
        exact .inr ⟨rest, rfl, fun same => other (by rw [same])⟩
  | lengthened front other =>
    obtain ⟨more, rfl⟩ := front
    refine .inr ⟨tail ++ more, by simp, fun same => other ?_⟩
    simpa using same
  | resigned cut last' other =>
    have cuts : cutLast (message ++ '.' :: tail) = some (message, tail) := cutLast_append last
    rw [cut, cutLast_append last'] at cuts
    cases cuts
    exact .inr ⟨_, rfl, other⟩

/-- What was altered is not genuine: it has lost a part, or shows another signature of the same
message. -/
theorem not_genuine_of_altered {q : Payload} (h : Altered (sign key p) text.toList) :
    ¬Genuine key text q := by
  intro genuine
  have one : (header ++ '.' :: segment (Utf8.encode p.toJson.chars)).count '.' = 1 := by
    have pointless (bytes : List UInt8) : (segment bytes).count '.' = 0 :=
      List.count_eq_zero.2 (point_not_mem_segment bytes)
    simp [header, pointless]
  rcases h.cases_of_cut (point_not_mem_segment _) with few | ⟨tail, cut, other⟩
  · rw [genuine.count_points, one] at few
    omega
  · exact other (genuine.tail_eq cut one)

/-- A text is accepted, or refused as expired, only if it is a genuine signed token, and every text
that is not is invalid. In particular an issued token that was altered in one of these ways is
invalid at all times, also after its expiry. -/
theorem signature_covers_whole_text (key : Key) :
    (Maker.signed key).Judges (Genuine key) ∧
      ∀ {id nonce username lifetime issued token p},
        (Maker.signed key).create id nonce username lifetime issued = .ok (token, p) →
        ∀ text : String, Altered token.toList text.toList →
        ∀ now, (Maker.signed key).verify text now = .error .invalid := by
  have judges : (Maker.signed key).Judges (Genuine key) :=
    Maker.judges_of_authentic fun _ _ => authentic?_eq_some_iff
  refine ⟨judges, fun created text altered now => (judges.invalid text now).2 ?_⟩
  rintro ⟨q, genuine⟩
  obtain ⟨_, -, -, rfl⟩ := Maker.create_cases created
  rw [Maker.write, String.toList_ofList] at altered
  exact not_genuine_of_altered altered genuine

/-- Ada's token for a quarter of an hour. -/
def quarterToken : String := Maker.mint.write Maker.mintNonce (Maker.adaUntil Maker.quarterPast)

theorem lengthened_quarter_token_invalid :
    Maker.mint.create ⟨1⟩ Maker.mintNonce "ada" Maker.quarterHour Maker.november =
        .ok (quarterToken, Maker.adaUntil Maker.quarterPast) ∧
      Maker.mint.verify (quarterToken ++ "A") Maker.november = .error .invalid := by
  have created : Maker.mint.create ⟨1⟩ Maker.mintNonce "ada" Maker.quarterHour Maker.november =
      .ok (quarterToken, Maker.adaUntil Maker.quarterPast) := rfl
  refine ⟨created, (signature_covers_whole_text _).2 created _ (.lengthened ?_ ?_) _⟩
  · simp
  · simp

end Signed

/-! ### Sealed tokens -/

namespace Sealed

theorem reveal?_of_unlabelled {key : Key} {text : List Char} (h : ¬label <+: text) :
    reveal? key text = none := by
  refine if_neg fun same => h ?_
  rw [List.prefix_iff_eq_take, same]

/-- What follows the label is looked at only as far as it goes. -/
theorem reveal?_label_append (key : Key) (body : List Char) :
    reveal? key (label ++ body) = (Base64.decode Base64.urlSafe body).bind fun bytes =>
      if bytes.length < 12 then none
      else Crypto.Gcm.decrypt? key.cipher (bytes.take 12) (Utf8.encode label) (bytes.drop 12) := by
  rw [reveal?, List.take_left, if_pos rfl, List.drop_left]
  rfl

/-- What is hidden under a nonce is hidden in one text. -/
theorem reveal?_eq_some_iff {key : Key} {text : List Char} {plaintext : List UInt8} :
    reveal? key text = some plaintext ↔ ∃ nonce, text = close key nonce plaintext := by
  constructor
  · intro h
    by_cases labelled : label <+: text
    · obtain ⟨body, rfl⟩ := labelled
      rw [reveal?_label_append] at h
      obtain ⟨bytes, decoded, opened⟩ := Option.bind_eq_some_iff.1 h
      split at opened
      · cases opened
      · next long =>
        have size : (bytes.take 12).length = 12 := by
          rw [List.length_take]
          omega
        refine ⟨⟨bytes.take 12, size⟩, ?_⟩
        rw [close, ← Crypto.Gcm.decrypt?_eq_some_iff.1 opened, List.take_append_drop,
          Base64.decode_urlSafe_iff.1 decoded]
    · rw [reveal?_of_unlabelled labelled] at h
      cases h
  · rintro ⟨nonce, rfl⟩
    exact reveal?_close key nonce plaintext

/-- A text is a sealed token that says `p`: after the label it spells a nonce, and a payload sealed
under that nonce with its tag. -/
def Genuine (key : Key) (text : String) (p : Payload) : Prop :=
  ∃ (nonce : Nonce) (plaintext : List UInt8),
    text = "v2.local." ++ String.ofList (Base64.encode Base64.urlSafe (nonce.bytes ++
      Crypto.Gcm.encrypt key.cipher nonce.bytes (Utf8.ofString "v2.local.") plaintext)) ∧
    Payload.ofJson? plaintext = some p

theorem toList_eq_close_iff {key : Key} {nonce : Nonce} {plaintext : List UInt8} {text : String} :
    text.toList = close key nonce plaintext ↔
      text = "v2.local." ++ String.ofList (Base64.encode Base64.urlSafe (nonce.bytes ++
        Crypto.Gcm.encrypt key.cipher nonce.bytes (Utf8.ofString "v2.local.") plaintext)) := by
  have label_toList : "v2.local.".toList = label := rfl
  rw [← String.toList_inj, String.toList_append, label_toList, String.toList_ofList]
  rfl

/-- The payload is found in the genuine texts and in no others. -/
theorem authentic?_eq_some_iff {key : Key} {text : String} {p : Payload} :
    authentic? key text.toList = some p ↔ Genuine key text p := by
  simp only [authentic?, Option.bind_eq_some_iff, reveal?_eq_some_iff, toList_eq_close_iff, Genuine]
  constructor
  · rintro ⟨plaintext, ⟨nonce, same⟩, told⟩
    exact ⟨nonce, plaintext, same, told⟩
  · rintro ⟨nonce, plaintext, same, told⟩
    exact ⟨plaintext, ⟨nonce, same⟩, told⟩

/-- Texts that are no sealed tokens under any key: without the label; with something after it that
no bytes are written as, be it padding, a foreign letter or bits that are left over; or with fewer
bytes than a nonce and a tag. -/
inductive Malformed : List Char → Prop where
  | unlabelled {text : List Char} (h : ¬label <+: text) : Malformed text
  | unspelled {body : List Char} (h : ∀ bytes, body ≠ Base64.encode Base64.urlSafe bytes) :
      Malformed (label ++ body)
  | short {bytes : List UInt8} (h : bytes.length < 28) :
      Malformed (label ++ Base64.encode Base64.urlSafe bytes)

/-- What is sealed has the label, is spelled as base64 and is long enough. -/
theorem not_malformed_close (key : Key) (nonce : Nonce) (plaintext : List UInt8) :
    ¬Malformed (close key nonce plaintext) := by
  generalize closed : close key nonce plaintext = text
  intro h
  cases h with
  | unlabelled h => exact h ⟨_, closed⟩
  | unspelled h => exact h _ (List.append_cancel_left closed).symm
  | @short bytes h =>
    have same := Base64.encode_injective Base64.distinct_urlSafe (List.append_cancel_left closed)
    have long := congrArg List.length same
    rw [List.length_append, nonce.exact, Crypto.Gcm.length_encrypt] at long
    omega

/-- A text is accepted, or refused as expired, only if it is the one text of a nonce and of what is
sealed under it, and every other text is invalid. -/
theorem one_spelling (key : Key) :
    (Maker.sealed key).Judges (Genuine key) ∧
      ∀ text : String, Malformed text.toList →
        ∀ now, (Maker.sealed key).verify text now = .error .invalid := by
  have judges : (Maker.sealed key).Judges (Genuine key) :=
    Maker.judges_of_authentic fun _ _ => authentic?_eq_some_iff
  refine ⟨judges, fun text malformed now => (judges.invalid text now).2 ?_⟩
  rintro ⟨q, nonce, plaintext, same, -⟩
  rw [toList_eq_close_iff.2 same] at malformed
  exact not_malformed_close key nonce plaintext malformed

/-- A key that tokens are sealed with. -/
def boxKey : Key := ⟨List.replicate 32 0, by decide⟩

/-- Ada's sealed token for a quarter of an hour. -/
def quarterBox : String :=
  (Maker.sealed boxKey).write Maker.mintNonce (Maker.adaUntil Maker.quarterPast)

theorem quarter_box_spelled :
    Malformed "v2.local.AAAA".toList ∧
      (Maker.sealed boxKey).verify "v2.local.AAAA" Maker.november = .error .invalid ∧
      Genuine boxKey quarterBox (Maker.adaUntil Maker.quarterPast) ∧
      (Maker.sealed boxKey).verify quarterBox Maker.november =
        .ok (Maker.adaUntil Maker.quarterPast) := by
  have short : Malformed "v2.local.AAAA".toList := .short (show [0, 0, 0].length < 28 by decide)
  have genuine : Genuine boxKey quarterBox (Maker.adaUntil Maker.quarterPast) := by
    refine ⟨Maker.mintNonce, Utf8.encode (Maker.adaUntil Maker.quarterPast).toJson.chars, ?_, ?_⟩
    · exact toList_eq_close_iff.1 (String.toList_ofList ..)
    · exact Payload.ofJson?_encode _
  obtain ⟨judges, refuses⟩ := one_spelling boxKey
  exact ⟨short, refuses _ short _, genuine, (judges.accepted _ _ _).2 ⟨genuine, by decide⟩⟩

end Sealed

/-! ### Issued tokens -/

theorem Sealed.hide_subset (key : Key) (nonce : Nonce) (p : Payload) :
    hide key nonce p ⊆ Signed.tokenChars := by
  have labelled : label ⊆ Signed.tokenChars := by decide
  rw [hide, close]
  exact List.append_subset.2 ⟨labelled, Signed.segment_subset _⟩

namespace Maker

variable {maker : Maker} {nonce : Sealed.Nonce} {p : Payload}

theorem write_subset : (maker.write nonce p).toList ⊆ Signed.tokenChars := by
  cases maker with
  | signed key => exact String.toList_ofList.symm ▸ Signed.sign_subset key p
  | sealed key => exact String.toList_ofList.symm ▸ Sealed.hide_subset key nonce p

theorem write_ne : (maker.write nonce p).toList ≠ [] := by
  cases maker with
  | signed key =>
    rw [write, String.toList_ofList, Signed.sign]
    simp
  | sealed key =>
    rw [write, String.toList_ofList, Sealed.hide, Sealed.close]
    exact List.append_ne_nil_of_left_ne_nil (by decide) _

/-- What is found in an issued token is what was written in it. -/
theorem eq_written_of_verify {now : Timestamp} {q : Payload}
    (h : maker.verify (maker.write nonce p) now = .ok q) : q = p.written := by
  have found := (verify_eq_ok_iff.1 h).1
  by_cases accepted : maker.Accepts p
  · rw [authentic?_write accepted] at found
    exact (Option.some.inj found).symm
  · rw [authentic?_write_of_not_accepts accepted] at found
    cases found

end Maker

end Teller.Token
