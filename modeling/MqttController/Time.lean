import Mathlib.Data.Rat.Floor

/-!
# Monotonic time and the clock

Instants and durations count nanoseconds.  `durationSince` saturates at zero, and a clock reading
collects what one event handler reads from the clock.
-/

namespace MqttController

/-- A monotonic timestamp in nanoseconds. -/
abbrev Instant := Nat

/-- A length of time in nanoseconds. -/
abbrev Duration := Nat

/-- Nanoseconds in one second. -/
def nanosPerSecond : Nat := 1000000000

/-- Whole seconds as a duration. -/
def Duration.fromSecs (seconds : Nat) : Duration := seconds * nanosPerSecond

/-- Milliseconds as a duration. -/
def Duration.fromMillis (millis : Nat) : Duration := millis * 1000000

theorem Duration.fromMillis_le {shorter longer : Nat} (ordered : shorter ≤ longer) :
    Duration.fromMillis shorter ≤ Duration.fromMillis longer :=
  Nat.mul_le_mul_right _ ordered

theorem Duration.fromMillis_lt {shorter longer : Nat} (ordered : shorter < longer) :
    Duration.fromMillis shorter < Duration.fromMillis longer :=
  Nat.mul_lt_mul_of_pos_right ordered (by decide)

/-- The nearest whole number, and the even one where two are equally near. -/
def roundTiesEven (value : ℚ) : ℤ :=
  let low := value.floor
  if value - low < 1 / 2 || (decide (value - low = 1 / 2) && low % 2 == 0) then low else low + 1

/-- Seconds with a fraction as a duration, to the nearest nanosecond. -/
def Duration.fromSecsF64 (seconds : ℚ) : Duration :=
  (roundTiesEven (seconds * nanosPerSecond)).toNat

example : Duration.fromSecsF64 (1 / 1024) = 976562 := by decide +kernel

/-- The time since an earlier instant, zero when it is not earlier. -/
def durationSince (now earlier : Instant) : Duration := now - earlier

/-- Days of the week. -/
inductive Weekday
  | monday
  | tuesday
  | wednesday
  | thursday
  | friday
  | saturday
  | sunday
  deriving DecidableEq, Repr

namespace Weekday

/-- The weekdays in order. -/
def all : List Weekday := [monday, tuesday, wednesday, thursday, friday, saturday, sunday]

/-- The position of a weekday, from Monday. -/
def index : Weekday → Nat
  | monday => 0
  | tuesday => 1
  | wednesday => 2
  | thursday => 3
  | friday => 4
  | saturday => 5
  | sunday => 6

instance : Ord Weekday := ⟨fun first second => compare first.index second.index⟩

end Weekday

/-- Sunrise and sunset as minutes of the local day. -/
structure SunTimes where
  /-- Minute of sunrise. -/
  sunriseMinuteOfDay : Nat
  /-- Minute of sunset. -/
  sunsetMinuteOfDay : Nat
  deriving DecidableEq, Repr

/-- A place on earth. -/
structure Location where
  /-- Degrees north. -/
  latitude : ℚ
  /-- Degrees east. -/
  longitude : ℚ
  deriving DecidableEq

/-- What the clock says while one event is handled. -/
structure ClockReading where
  /-- The monotonic now. -/
  now : Instant
  /-- Local hour, `0..=23`. -/
  localHour : Nat
  /-- Local minute, `0..=59`. -/
  localMinute : Nat
  /-- Local weekday. -/
  localWeekday : Weekday
  /-- Wall-clock milliseconds since the epoch. -/
  epochMillis : Nat
  /-- Sunrise and sunset of the local date at a place. -/
  sunTimes : Location → SunTimes

end MqttController
