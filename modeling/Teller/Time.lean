/-!
# Timestamps and durations

A timestamp is a count of nanoseconds since the first second of 1970, before or after it, within the
years -262143 to 262142. A duration is a signed count of nanoseconds that fits a 64-bit count of
milliseconds.
-/

namespace Teller

def nanosPerSecond : Int := 1000000000

/-- The first and the last representable second. -/
def Timestamp.firstSecond : Int := -8334601228800
def Timestamp.lastSecond : Int := 8210266876799

/-- A point in time that a calendar of years from −262143 to 262142 can tell. -/
@[ext] structure Timestamp where
  /-- Nanoseconds since 1970-01-01T00:00:00Z. -/
  nanos : Int
  lower : Timestamp.firstSecond * nanosPerSecond ≤ nanos
  upper : nanos < (Timestamp.lastSecond + 1) * nanosPerSecond
deriving DecidableEq

/-- The largest count of milliseconds in a duration, of either sign. -/
def Duration.maxMillis : Int := 9223372036854775807

/-- A span of time that whole milliseconds in 64 bits can tell, in either direction. -/
@[ext] structure Duration where
  nanos : Int
  lower : -(Duration.maxMillis * 1000000) ≤ nanos
  upper : nanos ≤ Duration.maxMillis * 1000000
deriving DecidableEq

namespace Duration

/-- The span of so many nanoseconds, if it is not too long. -/
def ofNanos? (n : Int) : Option Duration :=
  if h : -(maxMillis * 1000000) ≤ n ∧ n ≤ maxMillis * 1000000 then some ⟨n, h.1, h.2⟩ else none

/-- The span of so many seconds, if it is not too long. -/
def ofSeconds? (seconds : Int) : Option Duration := ofNanos? (seconds * nanosPerSecond)

/-- The longest duration. -/
def max : Duration := ⟨maxMillis * 1000000, by decide, by decide⟩

/-- Whole seconds, rounded down. -/
def seconds (d : Duration) : Int := d.nanos / nanosPerSecond

end Duration

namespace Timestamp

/-- The time so many nanoseconds after the epoch, if it is in range. -/
def ofNanos? (n : Int) : Option Timestamp :=
  if h : firstSecond * nanosPerSecond ≤ n ∧ n < (lastSecond + 1) * nanosPerSecond then
    some ⟨n, h.1, h.2⟩
  else none

/-- The time so many seconds after the epoch, if it is in range. -/
def ofSeconds? (seconds : Int) : Option Timestamp := ofNanos? (seconds * nanosPerSecond)

/-- The start of the year 1970. -/
def epoch : Timestamp := (ofSeconds? 0).get rfl

/-- The second that a timestamp lies in, rounding towards the past. -/
def second (t : Timestamp) : Int := t.nanos / nanosPerSecond

/-- Nanoseconds since the start of that second. -/
def subsecond (t : Timestamp) : Int := t.nanos % nanosPerSecond

/-- The microsecond that a timestamp lies in, rounding towards the past. -/
def micros (t : Timestamp) : Int := t.nanos / 1000

theorem second_lower (t : Timestamp) : firstSecond ≤ t.second := by
  have := t.lower; simp only [second, nanosPerSecond] at *; omega

theorem second_upper (t : Timestamp) : t.second ≤ lastSecond := by
  have := t.upper; simp only [second, nanosPerSecond] at *; omega

/-- The start of the second that a timestamp lies in. -/
def floor (t : Timestamp) : Timestamp where
  nanos := t.second * nanosPerSecond
  lower := by have := t.second_lower; simp only [nanosPerSecond]; omega
  upper := by have := t.second_upper; simp only [nanosPerSecond]; omega

/-- A later or earlier timestamp, unless it leaves the representable years. -/
def add? (t : Timestamp) (d : Duration) : Option Timestamp := ofNanos? (t.nanos + d.nanos)

instance : LT Timestamp := ⟨fun a b => a.nanos < b.nanos⟩
instance : LE Timestamp := ⟨fun a b => a.nanos ≤ b.nanos⟩
instance (a b : Timestamp) : Decidable (a < b) := inferInstanceAs (Decidable (a.nanos < b.nanos))
instance (a b : Timestamp) : Decidable (a ≤ b) := inferInstanceAs (Decidable (a.nanos ≤ b.nanos))

@[simp] theorem nanos_floor (t : Timestamp) : t.floor.nanos = t.second * nanosPerSecond := rfl

@[simp] theorem second_floor (t : Timestamp) : t.floor.second = t.second := by
  simp only [second, nanos_floor, nanosPerSecond]; omega

theorem ofNanos?_eq_some_iff {n : Int} {t : Timestamp} : ofNanos? n = some t ↔ t.nanos = n := by
  unfold ofNanos?
  split
  · simp only [Option.some.injEq]
    exact ⟨fun h => h ▸ rfl, fun h => Timestamp.ext h.symm⟩
  · next h =>
    simp only [reduceCtorEq, false_iff]
    exact fun hn => h ⟨hn ▸ t.lower, hn ▸ t.upper⟩

/-- Reading back the second of a timestamp gives the start of that second. -/
theorem ofSeconds?_second (t : Timestamp) : ofSeconds? t.second = some t.floor :=
  ofNanos?_eq_some_iff.2 rfl

end Timestamp

end Teller
