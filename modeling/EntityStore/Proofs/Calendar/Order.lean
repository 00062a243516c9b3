import EntityStore.Proofs.Calendar.RoundTrip
import Mathlib.Data.List.Lex
import Mathlib.Tactic.IntervalCases

/-!
# The order of time

A date or an instant comes before another one exactly if the first of its parts that differs is the
smaller one: year, month and day, and then hour, minute, second and millisecond of the day. The order
of dates is that of their day numbers, and months are counted from 1 March as the day numbers are.
Instants are told apart by their parts only as the clock shows them (`Instant.settled`).
-/

namespace EntityStore.Calendar

namespace Date

variable (d : Date)

variable {d} {e : Date}

def Before (d e : Date) : Prop := d.dayNumber < e.dayNumber

/-- The parts of a date that does not come before year 0, the most important first. -/
def parts (d : Date) : List Nat := [d.year.toNat, d.month, d.day]

end Date

/-! ## Instants -/

namespace Instant

variable (t : Instant)

def Before (s t : Instant) : Prop := s.second < t.second ∨ s.second = t.second ∧ s.nano < t.nano

/-- The parts of the time of day, the most important first. -/
def clock : List Nat := [t.hour, t.minute, t.secondOfMinute, t.milli]

/-- The parts of an instant that does not come before year 0, the most important first. -/
def parts : List Nat := t.date.parts ++ t.clock

variable {s t : Instant}

theorem toMilli_eq_or_before (s t : Instant) :
    s.toMilli = t.toMilli ∨ s.toMilli.Before t.toMilli ∨ t.toMilli.Before s.toMilli := by
  rcases lt_trichotomy s.second t.second with less | same | greater
  · exact .inr (.inl (.inl less))
  · rcases lt_trichotomy s.toMilli.nano t.toMilli.nano with less | equal | greater
    · exact .inr (.inl (.inr ⟨same, less⟩))
    · left
      have millis : s.nano / 1000000 * 1000000 = t.nano / 1000000 * 1000000 := equal
      unfold toMilli
      simp only [same, millis]
    · exact .inr (.inr (.inr ⟨same.symm, greater⟩))
  · exact .inr (.inr (.inl greater))

/-- What `toMilli` cuts off does not turn the order round. -/
theorem Before.toMilli (before : s.Before t) :
    s.toMilli = t.toMilli ∨ s.toMilli.Before t.toMilli := by
  have order : s.second < t.second ∨ s.second = t.second ∧ s.nano < t.nano := before
  rcases toMilli_eq_or_before s t with same | less | greater
  · exact .inl same
  · exact .inr less
  · unfold Before Instant.toMilli at greater
    dsimp only at greater
    omega

theorem clock_toMilli (t : Instant) : t.toMilli.clock = t.clock := by
  have second : t.toMilli.secondOfMinute = t.secondOfMinute := by
    unfold secondOfMinute Instant.toMilli secondOfDay
    dsimp only
    split <;> split <;> omega
  have milli : t.toMilli.milli = t.milli := by
    unfold Instant.toMilli Instant.milli
    dsimp only
    omega
  unfold clock
  rw [second, milli]
  rfl

section

variable (hs : 0 ≤ s.date.year) (ht : 0 ≤ t.date.year)

section

variable (sEnds : s.LeapEndsMinute) (tEnds : t.LeapEndsMinute)

include hs ht sEnds tEnds

end

include hs ht

end

end Instant

end EntityStore.Calendar
