import Teller.Proofs.Except
import Teller.Proofs.Json.Results
import Teller.Proofs.Token.RoundTrip

/-!
# Payloads written and read again

Writing a payload cuts its times to whole seconds, rounding towards the past, and loses nothing else.
Times are read as whole seconds only, so what was read once loses nothing more.
-/

namespace Teller

/-- The last whole second that is not after a timestamp. -/
structure Timestamp.IsSecondOf (s t : Timestamp) : Prop where
  whole : nanosPerSecond ∣ s.nanos
  notAfter : s ≤ t
  within : t.nanos < s.nanos + nanosPerSecond

theorem Timestamp.isSecondOf_floor (t : Timestamp) : t.floor.IsSecondOf t where
  whole := floor_eq_self_iff.1 t.floor_floor
  notAfter := by
    change t.floor.nanos ≤ t.nanos
    simp only [nanos_floor, second, nanosPerSecond]
    omega
  within := t.lt_floor_nanos_add

namespace Token.Payload

open Json Json.Reader

/-- A draft in which no time has a fraction of a second. -/
structure Draft.IsWhole (d : Draft) : Prop where
  issuedAt : ∀ t ∈ d.issuedAt, t.floor = t
  expiredAt : ∀ t ∈ d.expiredAt, t.floor = t

theorem gives_readSecond : readSecond.Gives fun t => t.floor = t := by
  refine .after fun n => ?_
  split
  · next t read =>
    have nanos := Timestamp.ofNanos?_eq_some_iff.1 read
    exact gives_pure (Timestamp.floor_eq_self_iff.2 (nanos ▸ Int.dvd_mul_left _ _))
  · exact gives_fail _

/-- Each slot leaves the times of a draft as they are, or puts one in that was read. -/
theorem gives_slot {slot : Slot Draft} (h : slot ∈ slots) {d : Draft} (whole : d.IsWhole) :
    (slot.read d).Gives Draft.IsWhole := by
  simp only [slots, List.mem_cons, List.not_mem_nil, or_false] at h
  rcases h with rfl | rfl | rfl | rfl
  · exact (gives_anything _).slot fun _ _ => ⟨whole.issuedAt, whole.expiredAt⟩
  · exact (gives_anything _).slot fun _ _ => ⟨whole.issuedAt, whole.expiredAt⟩
  · exact gives_readSecond.slot fun t ht => ⟨fun _ h => Option.some.inj h ▸ ht, whole.expiredAt⟩
  · exact gives_readSecond.slot fun t ht => ⟨whole.issuedAt, fun _ h => Option.some.inj h ▸ ht⟩

theorem written_eq_self {d : Draft} {p : Payload} (whole : d.IsWhole)
    (completed : d.complete = .ok p) : p.written = p := by
  obtain ⟨id, -, rest⟩ := bind_eq_ok_iff.1 completed
  obtain ⟨username, -, rest⟩ := bind_eq_ok_iff.1 rest
  obtain ⟨issuedAt, issued, rest⟩ := bind_eq_ok_iff.1 rest
  obtain ⟨expiredAt, expires, rest⟩ := bind_eq_ok_iff.1 rest
  cases rest
  have issued := whole.issuedAt _ (require_eq_ok_iff.1 issued)
  have expires := whole.expiredAt _ (require_eq_ok_iff.1 expires)
  rw [written, issued, expires]

/-- A payload that was read loses nothing in writing. -/
theorem written_of_ofJson? {text : List UInt8} {p : Payload} (h : ofJson? text = some p) :
    p.written = p := by
  have base : Draft.empty.IsWhole := ⟨by simp [Draft.empty], by simp [Draft.empty]⟩
  have gives : reader.Gives fun p => p.written = p :=
    gives_record base (fun _ h _ => gives_slot h) fun _ _ => written_eq_self
  cases read : reader.all text with
  | error fault => simp [ofJson?, read, Except.toOption] at h
  | ok q =>
    obtain rfl : q = p := by simpa [ofJson?, read, Except.toOption] using h
    exact gives.of_all read

theorem ofString_render (p : Payload) :
    Utf8.ofString p.render = Utf8.encode p.toJson.chars :=
  congrArg Utf8.encode String.toList_ofList

/-- A written payload is read with its identifier and its subject, its times rounded down to whole
seconds; and a payload that was read from whatever text is read again as it is, good at the same
times. -/
theorem json_stable :
    (∀ p : Payload, ∃ q, ofJson? (Utf8.ofString p.render) = some q ∧
      q.id = p.id ∧ q.username = p.username ∧
      q.issuedAt.IsSecondOf p.issuedAt ∧ q.expiredAt.IsSecondOf p.expiredAt) ∧
    ∀ text p, ofJson? text = some p → ∃ q, ofJson? (Utf8.ofString p.render) = some q ∧ q = p ∧
      ∀ now, q.checkExpiry now = p.checkExpiry now := by
  have read (p : Payload) : ofJson? (Utf8.ofString p.render) = some p.written := by
    rw [ofString_render, ofJson?_encode]
  constructor
  · intro p
    exact ⟨p.written, read p, rfl, rfl, p.issuedAt.isSecondOf_floor, p.expiredAt.isSecondOf_floor⟩
  · intro text p accepted
    have kept := written_of_ofJson? accepted
    refine ⟨p, ?_, rfl, fun _ => rfl⟩
    rw [read, kept]

/-- A payload with its claims out of order, one that no payload has, blanks, and escapes. -/
def scrambled : List UInt8 := Utf8.ofString <|
  "\x7b \"exp\" : 1700000900 ,\"aud\":[1,\x7b\"a\":null\x7d]," ++
  "\"sub\":\"ad\\u0061\\ud83d\\ude00\\n\",\n\t\"iat\":-1," ++
  "\"jti\":\"00000000000000000000000000000001\"\x7d "

/-- Ada's payload, issued a second before 1970. -/
def earlyAda : Payload :=
  ⟨⟨1⟩, "ada😀\n", ⟨-nanosPerSecond, by decide, by decide⟩, Maker.quarterPast⟩

theorem scrambled_stable :
    ofJson? scrambled = some earlyAda ∧
      ∃ q, ofJson? (Utf8.ofString earlyAda.render) = some q ∧ q = earlyAda ∧
        ∀ now, q.checkExpiry now = earlyAda.checkExpiry now := by
  have accepted : ofJson? scrambled = some earlyAda := by decide +kernel
  exact ⟨accepted, json_stable.2 scrambled earlyAda accepted⟩

end Token.Payload

end Teller
