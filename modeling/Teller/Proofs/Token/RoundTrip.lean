import Teller.Proofs.Text.Base64
import Teller.Proofs.Token.Payload
import Teller.Proofs.Token.Signed
import Teller.Token.Maker

/-!
# Tokens there and back

Whoever has the key gets out of a token what the payload was in writing. The time it was issued at
was cut to whole seconds before, so it is unchanged; the time it expires at is cut only in writing.

                 issuedAt                  expiredAt
    issued       ⌊now⌋                     ⌊now⌋ + lifetime
    verified     ⌊now⌋                     ⌊⌊now⌋ + lifetime⌋
-/

namespace Teller

namespace Timestamp

theorem lt_floor_nanos_add (t : Timestamp) : t.nanos < t.floor.nanos + nanosPerSecond := by
  simp only [nanos_floor, second, nanosPerSecond]
  omega

@[simp] theorem floor_floor (t : Timestamp) : t.floor.floor = t.floor :=
  Timestamp.ext (by simp)

/-- A timestamp without a fraction of a second is the start of its second. -/
theorem floor_eq_self_iff {t : Timestamp} : t.floor = t ↔ nanosPerSecond ∣ t.nanos := by
  rw [Timestamp.ext_iff, nanos_floor, second]
  exact ⟨fun h => ⟨_, (Int.mul_comm _ _ ▸ h).symm⟩, Int.ediv_mul_cancel⟩

theorem second_nonneg_iff {t : Timestamp} : 0 ≤ t.second ↔ epoch ≤ t := by
  change 0 ≤ t.nanos / nanosPerSecond ↔ 0 ≤ t.nanos
  simp only [nanosPerSecond]
  omega

end Timestamp

namespace Token

namespace Signed

theorem payloadOf?_segment (p : Payload) :
    payloadOf? (segment (Utf8.encode p.toJson.chars)) =
      if 0 ≤ p.expiredAt.second then some p.written else none := by
  simp only [payloadOf?, segment, Base64.decode_encode Base64.distinct_urlSafe,
    Payload.ofJson?_encode, Claims.acceptable_encode, Option.bind_eq_bind, Option.bind_some,
    decide_eq_true_eq]

end Signed

namespace Sealed

/-- A token that was made under a key hides what was put into it. -/
theorem reveal?_close (key : Key) (nonce : Nonce) (plaintext : List UInt8) :
    reveal? key (close key nonce plaintext) = some plaintext := by
  unfold reveal? close
  rw [List.take_left, if_pos rfl, List.drop_left, Base64.decode_encode Base64.distinct_urlSafe]
  have long : ¬(nonce.bytes ++ Crypto.Gcm.encrypt key.cipher nonce.bytes (Utf8.encode label)
      plaintext).length < 12 := by
    rw [List.length_append, nonce.exact]
    omega
  simp only [Option.bind_eq_bind, Option.bind_some, if_neg long]
  rw [← nonce.exact, List.take_left, List.drop_left, Crypto.Gcm.decrypt?_encrypt]

theorem authentic?_hide (key : Key) (nonce : Nonce) (p : Payload) :
    authentic? key (hide key nonce p) = some p.written := by
  rw [authentic?, hide, reveal?_close, Option.bind_some, Payload.ofJson?_encode]

end Sealed

namespace Maker

/-- Signed tokens that expired before 1970 are not accepted. -/
def Accepts (maker : Maker) (p : Payload) : Prop :=
  match maker with
  | .signed _ => Timestamp.epoch ≤ p.expiredAt
  | .sealed _ => True

theorem accepts_of_epoch_le (maker : Maker) {p : Payload} (h : Timestamp.epoch ≤ p.expiredAt) :
    maker.Accepts p := by
  cases maker with
  | signed key => exact h
  | sealed key => trivial

/-- A written payload is found genuine by its maker. -/
theorem authentic?_write {maker : Maker} {p : Payload} (h : maker.Accepts p)
    (nonce : Sealed.Nonce) : maker.authentic? (maker.write nonce p) = some p.written := by
  cases maker with
  | signed key =>
    simp only [authentic?, write, String.toList_ofList, Signed.authentic?_sign,
      Signed.payloadOf?_segment]
    exact if_pos (Timestamp.second_nonneg_iff.2 h)
  | sealed key => simp only [authentic?, write, String.toList_ofList, Sealed.authentic?_hide]

/-- Signed tokens that expired before 1970 are good at no time. -/
theorem authentic?_write_of_not_accepts {maker : Maker} {p : Payload} (h : ¬maker.Accepts p)
    (nonce : Sealed.Nonce) : maker.authentic? (maker.write nonce p) = none := by
  cases maker with
  | signed key =>
    simp only [authentic?, write, String.toList_ofList, Signed.authentic?_sign,
      Signed.payloadOf?_segment]
    exact if_neg fun nonneg => h (Timestamp.second_nonneg_iff.1 nonneg)
  | sealed key => exact absurd trivial h

/-- A token can be verified up to the second that it expires in. -/
theorem verify_write {maker : Maker} {p : Payload} (h : maker.Accepts p) (nonce : Sealed.Nonce)
    (t : Timestamp) : maker.verify (maker.write nonce p) t =
      if p.expiredAt.floor < t then .error .expired else .ok p.written := by
  simp only [verify, authentic?_write h, Payload.checkExpiry, Payload.written]
  split <;> rfl

/-! ### Issued tokens -/

/-- A token is issued if it can last so long. -/
theorem create_cases {maker : Maker} {id : Uuid} {nonce : Sealed.Nonce} {username : String}
    {lifetime : Duration} {now : Timestamp} {token : String} {p : Payload}
    (h : maker.create id nonce username lifetime now = .ok (token, p)) :
    ∃ expiredAt, now.floor.add? lifetime = some expiredAt ∧
      p = ⟨id, username, now.floor, expiredAt⟩ ∧ token = maker.write nonce p := by
  unfold create Payload.issue at h
  split at h
  · next expiredAt added =>
    cases h
    exact ⟨expiredAt, added, rfl, rfl⟩
  · cases h

theorem create_of_add? {maker : Maker} {id : Uuid} {nonce : Sealed.Nonce} {username : String}
    {lifetime : Duration} {now expiredAt : Timestamp}
    (h : now.floor.add? lifetime = some expiredAt) :
    maker.create id nonce username lifetime now =
      .ok (maker.write nonce ⟨id, username, now.floor, expiredAt⟩,
        ⟨id, username, now.floor, expiredAt⟩) := by
  have issued : Payload.issue id username lifetime now =
      .ok ⟨id, username, now.floor, expiredAt⟩ := by
    rw [Payload.issue, h]
  rw [create, issued]
  rfl

/-- A new token is verified with the payload it was issued with, except that its expiry is cut to
whole seconds. So the payload comes back unchanged exactly if the lifetime has no fraction of a
second. -/
theorem verify_created {maker : Maker} {id : Uuid} {nonce : Sealed.Nonce} {username : String}
    {lifetime : Duration} {now : Timestamp} {token : String} {p : Payload}
    (since : Timestamp.epoch ≤ now) (positive : 0 < lifetime.nanos)
    (created : maker.create id nonce username lifetime now = .ok (token, p)) :
    p.id = id ∧ p.username = username ∧ p.issuedAt = now.floor ∧
      p.expiredAt.nanos = now.floor.nanos + lifetime.nanos ∧
      (∀ t, maker.verify token t =
        if p.expiredAt.floor < t then .error .expired
        else .ok { p with expiredAt := p.expiredAt.floor }) ∧
      (maker.verify token now = .ok p ↔ nanosPerSecond ∣ lifetime.nanos) := by
  obtain ⟨expiredAt, added, hp, rfl⟩ := create_cases created
  have expiry : expiredAt.nanos = now.floor.nanos + lifetime.nanos :=
    Timestamp.ofNanos?_eq_some_iff.1 added
  have issued : p.issuedAt = now.floor := by rw [hp]
  have expires : p.expiredAt = expiredAt := by rw [hp]
  have after : Timestamp.epoch ≤ p.expiredAt := by
    have start : 0 ≤ now.second := Timestamp.second_nonneg_iff.2 since
    have floor := Int.mul_nonneg start (show 0 ≤ nanosPerSecond by decide)
    change 0 ≤ p.expiredAt.nanos
    rw [expires, expiry, Timestamp.nanos_floor]
    omega
  have verified (t : Timestamp) : maker.verify (maker.write nonce p) t =
      if p.expiredAt.floor < t then .error .expired
      else .ok { p with expiredAt := p.expiredAt.floor } := by
    rw [verify_write (maker.accepts_of_epoch_le after), Payload.written, issued,
      Timestamp.floor_floor, ← issued]
  -- The payload comes back as it was if its expiry has no fraction to lose.
  have whole : p.expiredAt.floor = p.expiredAt ↔ nanosPerSecond ∣ lifetime.nanos := by
    rw [Timestamp.floor_eq_self_iff, expires, expiry, Timestamp.nanos_floor]
    exact Int.dvd_add_right (Int.dvd_mul_left _ _)
  refine ⟨by rw [hp], by rw [hp], issued, expires ▸ expiry, verified, ?_⟩
  rw [verified, ← whole]
  constructor
  · intro same
    split at same
    · cases same
    · exact congrArg Payload.expiredAt (Except.ok.inj same)
  · intro same
    have second := Int.le_of_dvd positive (whole.1 same)
    have early : ¬p.expiredAt < now := by
      have below := now.lt_floor_nanos_add
      change ¬p.expiredAt.nanos < now.nanos
      rw [expires, expiry]
      omega
    rw [same, if_neg early]

/-- The maker of the examples. -/
def mint : Maker := .signed ⟨List.replicate 32 0, by decide⟩
/-- 22:13:20 on 14 November 2023. -/
def november : Timestamp := ⟨1700000000 * nanosPerSecond, by decide, by decide⟩
def mintNonce : Sealed.Nonce := .ofNat 0
/-- The lifetime of the examples. -/
def quarterHour : Duration := ⟨900 * nanosPerSecond, by decide, by decide⟩
/-- A payload for Ada, issued on that day in November. -/
def adaUntil (expiredAt : Timestamp) : Payload := ⟨⟨1⟩, "ada", november, expiredAt⟩
def quarterPast : Timestamp := ⟨1700000900 * nanosPerSecond, by decide, by decide⟩

theorem quarter_hour_verified :
    mint.create ⟨1⟩ mintNonce "ada" quarterHour november =
        .ok (mint.write mintNonce (adaUntil quarterPast), adaUntil quarterPast) ∧
      mint.verify (mint.write mintNonce (adaUntil quarterPast)) november =
        .ok (adaUntil quarterPast) := by
  have created : mint.create ⟨1⟩ mintNonce "ada" quarterHour november =
      .ok (mint.write mintNonce (adaUntil quarterPast), adaUntil quarterPast) := rfl
  obtain ⟨-, -, -, -, -, unchanged⟩ := verify_created (by decide) (by decide) created
  exact ⟨created, unchanged.2 ⟨900, rfl⟩⟩

/-- One and a half seconds. -/
def fractional : Duration := ⟨1500000000, by decide, by decide⟩
def fractionalExpiry : Timestamp := ⟨1700000001500000000, by decide, by decide⟩
def wholeExpiry : Timestamp := ⟨1700000001 * nanosPerSecond, by decide, by decide⟩

/-- A token that lasts for one and a half seconds does not come back unchanged. -/
theorem fraction_of_second_lost :
    mint.create ⟨1⟩ mintNonce "ada" fractional november =
        .ok (mint.write mintNonce (adaUntil fractionalExpiry),
          adaUntil fractionalExpiry) ∧
      mint.verify (mint.write mintNonce (adaUntil fractionalExpiry))
        november = .ok (adaUntil wholeExpiry) ∧
      adaUntil wholeExpiry ≠ adaUntil fractionalExpiry := by
  refine ⟨rfl, ?_, by decide⟩
  have since : Timestamp.epoch ≤ fractionalExpiry := by decide
  rw [verify_write (accepts_of_epoch_le mint since)]
  rfl

end Maker

end Token

end Teller
