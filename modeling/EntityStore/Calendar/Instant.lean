import EntityStore.Calendar.Date

/-!
# Instants

An instant is a second of the Universal Time scale and a part of it in nanoseconds. Seconds are
counted from 1 January 1970, every day having 86400 of them. A leap second shares the number of the
second before it; its nanoseconds run on from 1000000000. They can run on after any second, but a
clock and a count of seconds know leap seconds only at the end of a minute.
-/

namespace EntityStore.Calendar

/-- Leap seconds are not counted. -/
def secondsPerDay : Int := 86400

/-- Whether `second` and its nanoseconds `nano` name an instant whose day is in the calendar. -/
def IsInstant (second : Int) (nano : Nat) : Prop :=
  minDayNumber ≤ second / secondsPerDay ∧ second / secondsPerDay ≤ maxDayNumber ∧ nano < 2000000000

instance (second : Int) (nano : Nat) : Decidable (IsInstant second nano) := by
  unfold IsInstant; infer_instance

/-- An instant of Universal Time. In a leap second, `nano` goes on counting from 1000000000. -/
structure Instant where
  /-- The seconds since the beginning of 1970; negative before it. -/
  second : Int
  nano : Nat
  isInstant : IsInstant second nano
  deriving DecidableEq

namespace Instant

/-- If `t` lies in a leap second, that one comes at the end of a minute. -/
def LeapEndsMinute (t : Instant) : Prop := 1000000000 ≤ t.nano → t.second % 60 = 59

instance (t : Instant) : Decidable t.LeapEndsMinute := by unfold LeapEndsMinute; infer_instance

/-- The instant with the given `second` and `nano`, if there is one. A leap second is counted only at
the end of a minute. -/
def ofUnix? (second : Int) (nano : Nat) : Option Instant :=
  if h : IsInstant second nano then
    let t : Instant := ⟨second, nano, h⟩
    if t.LeapEndsMinute then some t else none
  else none

def epoch : Instant := ⟨0, 0, by decide⟩

/-- The day in which `t` lies. -/
def date (t : Instant) : Date :=
  Date.ofDayNumber (t.second / secondsPerDay) t.isInstant.1 t.isInstant.2.1

/-- The full seconds of the day before `t`. -/
def secondOfDay (t : Instant) : Nat := (t.second % secondsPerDay).toNat

def hour (t : Instant) : Nat := t.secondOfDay / 3600

def minute (t : Instant) : Nat := t.secondOfDay / 60 % 60

/-- The second of the minute; in a leap second, the one after the second that it shares its number
with, which is 60 at the end of a minute. -/
def secondOfMinute (t : Instant) : Nat :=
  t.secondOfDay % 60 + (if t.nano < 1000000000 then 0 else 1)

/-- The full milliseconds since the beginning of the second or leap second. -/
def milli (t : Instant) : Nat := t.nano % 1000000000 / 1000000

end Instant

/-- A time of day on a clock that is `ahead` of Universal Time by so many seconds. The `second` is
60 in a leap second. -/
structure TimeOfDay where
  hour : Nat
  minute : Nat
  second : Nat
  nano : Nat
  ahead : Int

/-- The instant at which the clock shows `time` on `d`, if it ever does. -/
def Date.at? (d : Date) (time : TimeOfDay) : Option Instant :=
  if 23 < time.hour ∨ 59 < time.minute ∨ 60 < time.second then none
  else
    let leap := time.second = 60
    let second := (if leap then 59 else time.second) + 60 * time.minute + 3600 * time.hour
    Instant.ofUnix? (d.dayNumber * secondsPerDay + second - time.ahead)
      (time.nano + (if leap then 1000000000 else 0))

end EntityStore.Calendar
