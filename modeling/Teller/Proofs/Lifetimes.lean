import Teller.Config

/-!
# Lifetimes that are granted

A configuration is checked once, against the clock as it is; tokens are issued later, each from the
start of its second. Both come to the same limit, since whole seconds are added: what counts is the
second of the clock.

A lifetime beyond the longest duration is cut down to it, and that one is granted nowhere.
-/

namespace Teller

/-! ### Adding seconds to a timestamp -/

theorem Duration.ofSeconds?_eq_some_iff {seconds : Int} {d : Duration} :
    ofSeconds? seconds = some d ↔ d.nanos = seconds * nanosPerSecond := by
  unfold ofSeconds? ofNanos?
  split
  · rw [Option.some.injEq]
    exact ⟨fun h => h ▸ rfl, fun h => Duration.ext h.symm⟩
  · next out =>
    simp only [reduceCtorEq, false_iff]
    exact fun h => out ⟨h ▸ d.lower, h ▸ d.upper⟩

theorem Timestamp.isSome_add?_iff {t : Timestamp} {d : Duration} : (t.add? d).isSome ↔
    firstSecond * nanosPerSecond ≤ t.nanos + d.nanos ∧
      t.nanos + d.nanos < (lastSecond + 1) * nanosPerSecond := by
  unfold add? ofNanos?
  split <;> simp_all

namespace Config

/-- The lifetime is longer than any duration. -/
def IsCutDown (seconds : Nat) : Prop := Duration.ofSeconds? seconds = none

instance (seconds : Nat) : Decidable (IsCutDown seconds) :=
  inferInstanceAs (Decidable (_ = none))

/-- There are so many seconds, at least one, from the second of `now` to the last one. -/
def Fits (now : Timestamp) (seconds : Nat) : Prop :=
  1 ≤ seconds ∧ now.second + seconds ≤ Timestamp.lastSecond

instance (now : Timestamp) (seconds : Nat) : Decidable (Fits now seconds) :=
  inferInstanceAs (Decidable (_ ∧ _))

variable {now : Timestamp} {seconds : Nat}

theorem isCutDown_iff : IsCutDown seconds ↔
    Duration.maxMillis * 1000000 < seconds * nanosPerSecond := by
  unfold IsCutDown Duration.ofSeconds? Duration.ofNanos?
  split
  · next fits => simpa using fits.2
  · next out =>
    simp only [Duration.maxMillis, nanosPerSecond, true_iff] at out ⊢
    omega

theorem lifetime_of_isCutDown (h : IsCutDown seconds) : lifetime seconds = Duration.max := by
  rw [lifetime, h, Option.getD_none]

theorem nanos_lifetime_of_not_isCutDown (h : ¬IsCutDown seconds) :
    (lifetime seconds).nanos = seconds * nanosPerSecond := by
  obtain ⟨d, hd⟩ := Option.ne_none_iff_exists'.1 h
  rw [lifetime, hd, Option.getD_some]
  exact Duration.ofSeconds?_eq_some_iff.1 hd

/-- The longest duration is no lifetime of whole seconds. -/
theorem isCutDown_iff_lifetime : IsCutDown seconds ↔ lifetime seconds = Duration.max := by
  refine ⟨lifetime_of_isCutDown, fun longest => Decidable.byContradiction fun whole => ?_⟩
  have nanos := nanos_lifetime_of_not_isCutDown whole
  rw [longest] at nanos
  simp only [Duration.max, Duration.maxMillis, nanosPerSecond] at nanos
  omega

/-- No timestamp has another one so long after it. -/
theorem add?_max (t : Timestamp) : t.add? Duration.max = none := by
  have lower := t.lower
  rw [← Option.not_isSome_iff_eq_none, Timestamp.isSome_add?_iff]
  simp only [Duration.max, Duration.maxMillis, Timestamp.firstSecond, Timestamp.lastSecond,
    nanosPerSecond] at lower ⊢
  omega

theorem not_isCutDown_of_add? {start expiredAt : Timestamp}
    (h : start.add? (lifetime seconds) = some expiredAt) : ¬IsCutDown seconds := by
  intro cut
  rw [lifetime_of_isCutDown cut, add?_max] at h
  cases h

/-- A token that was issued for a lifetime of the configuration lasts for so many seconds: the
longest duration, to which others are cut down, is never granted. -/
theorem nanos_lifetime {start expiredAt : Timestamp}
    (h : start.add? (lifetime seconds) = some expiredAt) :
    expiredAt.nanos = start.nanos + seconds * nanosPerSecond := by
  have sum : expiredAt.nanos = start.nanos + (lifetime seconds).nanos :=
    Timestamp.ofNanos?_eq_some_iff.1 h
  rw [sum, nanos_lifetime_of_not_isCutDown (not_isCutDown_of_add? h)]

/-- The fraction of a second that a clock shows does not decide whether whole seconds can be added,
so a clock and the start of its second come to the same. -/
theorem isSome_add?_lifetime_iff :
    (now.add? (lifetime seconds)).isSome ↔ now.second + seconds ≤ Timestamp.lastSecond := by
  have lower := now.lower
  have upper := now.upper
  by_cases cut : IsCutDown seconds
  · rw [lifetime_of_isCutDown cut, add?_max]
    rw [isCutDown_iff] at cut
    simp only [Option.isSome_none, Bool.false_eq_true, false_iff, Timestamp.second,
      Duration.maxMillis, Timestamp.firstSecond, Timestamp.lastSecond, nanosPerSecond] at *
    omega
  · rw [Timestamp.isSome_add?_iff, nanos_lifetime_of_not_isCutDown cut]
    simp only [Timestamp.second, Timestamp.firstSecond, Timestamp.lastSecond, nanosPerSecond] at *
    omega

/-! ### The check of a configuration -/

/-- To check a lifetime as it is, or cut down, is the same. -/
theorem bind_add?_eq :
    (Duration.ofSeconds? seconds).bind now.add? = now.add? (lifetime seconds) := by
  by_cases cut : IsCutDown seconds
  · rw [lifetime_of_isCutDown cut, add?_max, cut, Option.bind_none]
  · obtain ⟨d, hd⟩ := Option.ne_none_iff_exists'.1 cut
    rw [lifetime, hd, Option.getD_some, Option.bind_some]

theorem isGrantable_iff : isGrantable now seconds ↔ Fits now seconds := by
  rw [isGrantable, bind_add?_eq, Bool.and_eq_true, decide_eq_true_iff, isSome_add?_lifetime_iff]
  exact Iff.rfl

theorem checkLifetime_eq_ok_iff (setting : String) :
    checkLifetime now setting seconds = .ok () ↔ Fits now seconds := by
  rw [← isGrantable_iff, checkLifetime]
  split <;> simp_all

theorem Tokens.validate_eq_ok_iff {t : Tokens} :
    t.validate now = .ok () ↔ Fits now t.accessSeconds ∧ Fits now t.refreshSeconds := by
  rw [← checkLifetime_eq_ok_iff accessSetting,
    ← checkLifetime_eq_ok_iff refreshSetting, validate]
  cases checkLifetime now accessSetting t.accessSeconds with
  | error f => exact ⟨nofun, fun h => nomatch h.1⟩
  | ok _ => exact ⟨fun h => ⟨rfl, h⟩, And.right⟩

/-! ### Tokens of a configuration -/

variable {id : Uuid} {username : String} {p : Token.Payload}

theorem issue_eq_ok_iff {lifetime : Duration} :
    Token.Payload.issue id username lifetime now = .ok p ↔
      ∃ expiredAt, now.floor.add? lifetime = some expiredAt ∧
        p = ⟨id, username, now.floor, expiredAt⟩ := by
  unfold Token.Payload.issue
  cases now.floor.add? lifetime with
  | none => exact ⟨nofun, fun ⟨_, added, _⟩ => nomatch added⟩
  | some later => simp [eq_comm]

/-- A payload can be issued for a lifetime of the configuration if the last second is that far
away, and only then. -/
theorem exists_issue_iff :
    (∃ p, Token.Payload.issue id username (lifetime seconds) now = .ok p) ↔
      now.second + seconds ≤ Timestamp.lastSecond := by
  rw [← Timestamp.second_floor, ← isSome_add?_lifetime_iff, Option.isSome_iff_exists]
  simp only [issue_eq_ok_iff]
  exact ⟨fun ⟨_, expiredAt, added, _⟩ => ⟨expiredAt, added⟩,
    fun ⟨expiredAt, added⟩ => ⟨_, expiredAt, added, rfl⟩⟩

theorem issue_max :
    Token.Payload.issue id username Duration.max now = .error .durationOutOfRange := by
  rw [Token.Payload.issue, add?_max]

/-- What is issued for a lifetime of the configuration expires just so many seconds after the second
of its issuance. -/
theorem issue_expiry (h : Token.Payload.issue id username (lifetime seconds) now = .ok p) :
    (lifetime seconds).nanos = seconds * nanosPerSecond ∧
      p.expiredAt.nanos = (now.second + seconds) * nanosPerSecond := by
  obtain ⟨expiredAt, added, rfl⟩ := issue_eq_ok_iff.1 h
  refine ⟨nanos_lifetime_of_not_isCutDown (not_isCutDown_of_add? added), ?_⟩
  rw [nanos_lifetime added, Timestamp.nanos_floor, Int.add_mul]

/-- Whatever the lifetimes of a configuration and the time of its check, also within a second: it is
accepted exactly if both lifetimes are at least a second and a payload can be issued for each of
them then, which is if the last second is that far from the second of the clock. What is issued then
lasts for the seconds of its lifetime, none of which is cut down. A lifetime that is cut down is
accepted at no time, and no payload is ever issued for it. -/
theorem granted_iff_issued (t : Tokens) (now : Timestamp) (id : Uuid) (username : String) :
    let issue (lifetime : Duration) := Token.Payload.issue id username lifetime now
    (t.validate now = .ok () ↔ (1 ≤ t.accessSeconds ∧ 1 ≤ t.refreshSeconds) ∧
      (∃ p, issue t.accessLifetime = .ok p) ∧ ∃ p, issue t.refreshLifetime = .ok p) ∧
    (t.validate now = .ok () ↔ Fits now t.accessSeconds ∧ Fits now t.refreshSeconds) ∧
    (t.validate now = .ok () → ∃ access refresh,
      issue t.accessLifetime = .ok access ∧ issue t.refreshLifetime = .ok refresh ∧
      (t.accessLifetime.nanos = t.accessSeconds * nanosPerSecond ∧
        access.expiredAt.nanos = (now.second + t.accessSeconds) * nanosPerSecond) ∧
      (t.refreshLifetime.nanos = t.refreshSeconds * nanosPerSecond ∧
        refresh.expiredAt.nanos = (now.second + t.refreshSeconds) * nanosPerSecond)) ∧
    (t.accessLifetime = Duration.max ∨ t.refreshLifetime = Duration.max →
      ∃ fault, t.validate now = .error fault) ∧
    ∀ seconds, (IsCutDown seconds ↔ lifetime seconds = Duration.max) ∧
      (lifetime seconds = Duration.max →
        issue (lifetime seconds) = .error .durationOutOfRange) := by
  intro issue
  have accepted : t.validate now = .ok () ↔ (1 ≤ t.accessSeconds ∧ 1 ≤ t.refreshSeconds) ∧
      (∃ p, issue t.accessLifetime = .ok p) ∧ ∃ p, issue t.refreshLifetime = .ok p := by
    rw [Tokens.validate_eq_ok_iff, Tokens.accessLifetime, Tokens.refreshLifetime, exists_issue_iff,
      exists_issue_iff, Fits, Fits, and_and_and_comm]
  refine ⟨accepted, Tokens.validate_eq_ok_iff, fun valid => ?_, fun longest => ?_, fun seconds =>
    ⟨isCutDown_iff_lifetime, fun longest => longest ▸ issue_max⟩⟩
  · obtain ⟨-, ⟨access, haccess⟩, refresh, hrefresh⟩ := accepted.1 valid
    exact ⟨access, refresh, haccess, hrefresh, issue_expiry haccess, issue_expiry hrefresh⟩
  · cases valid : t.validate now with
    | error fault => exact ⟨fault, rfl⟩
    | ok _ =>
      obtain ⟨-, ⟨access, haccess⟩, refresh, hrefresh⟩ := accepted.1 valid
      rcases longest with longest | longest
      · rw [longest] at haccess
        exact nomatch haccess.symm.trans issue_max
      · rw [longest] at hrefresh
        exact nomatch hrefresh.symm.trans issue_max

/-- A day before the end of the last second, all but a nanosecond. -/
def lastDay : Timestamp :=
  ⟨(Timestamp.lastSecond - 86400) * nanosPerSecond + 999999999, by decide, by decide⟩

/-- Refresh tokens may last for a day then, but not for a second more. -/
theorem granted_on_last_day :
    (⟨.sealed, "", 900, 86400⟩ : Tokens).validate lastDay = .ok () ∧
      (∃ refresh, Token.Payload.issue ⟨0⟩ "ada" (lifetime 86400) lastDay = .ok refresh ∧
        refresh.expiredAt.nanos = Timestamp.lastSecond * nanosPerSecond) ∧
      (⟨.sealed, "", 900, 86401⟩ : Tokens).validate lastDay ≠ .ok () := by
  obtain ⟨-, fits, lasts, -⟩ := granted_iff_issued ⟨.sealed, "", 900, 86400⟩ lastDay ⟨0⟩ "ada"
  obtain ⟨-, fits', -⟩ := granted_iff_issued ⟨.sealed, "", 900, 86401⟩ lastDay ⟨0⟩ "ada"
  have valid := fits.2 (by decide)
  obtain ⟨access, refresh, -, issued, -, -, expiry⟩ := lasts valid
  exact ⟨valid, ⟨refresh, issued, expiry⟩, fun valid => absurd (fits'.1 valid) (by decide)⟩

end Config

end Teller
