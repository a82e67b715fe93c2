import Gamebook.Time.Calendar

/-!
# Instants

Points in time in UTC, to the nanosecond, for the years from -262143 to 262142. An instant is a day,
a second of that day and a fraction; a fraction from one second on stands for the leap second that
follows the given second.
-/

namespace Gamebook

/-- A point in time. -/
structure Instant where
  /-- Days since 1 January 1970. -/
  day : Int
  /-- The second of the day. -/
  second : Nat
  /-- Nanoseconds since that second; from `10 ^ 9` on, those of the leap second after it. -/
  nano : Nat
  day_ge : -96465292 ≤ day
  day_le : day ≤ 95026236
  second_lt : second < 86400
  nano_lt : nano < 2000000000
  deriving Repr, DecidableEq

namespace Instant

/-- Midnight at the start of 1 January 1970. -/
def epoch : Instant := ⟨0, 0, 0, by decide, by decide, by decide, by decide⟩

instance : Inhabited Instant := ⟨epoch⟩

/-- The instant with the given parts, if there is one. -/
def ofParts? (day : Int) (second nano : Nat) : Option Instant :=
  if h : -96465292 ≤ day ∧ day ≤ 95026236 ∧ second < 86400 ∧ nano < 2000000000 then
    some ⟨day, second, nano, h.1, h.2.1, h.2.2.1, h.2.2.2⟩
  else
    none

/-- The instant a number of nanoseconds after the epoch, if it lies in the range. -/
def ofNanos? (nanos : Int) : Option Instant :=
  ofParts? (nanos / 86400000000000) ((nanos % 86400000000000).toNat / 1000000000)
    (nanos % 1000000000).toNat

/-- The instant a number of milliseconds after the epoch, if it lies in the range. -/
def ofMillis? (millis : Int) : Option Instant := ofNanos? (millis * 1000000)

/-- Whether an instant lies in a leap second. -/
def isLeap (t : Instant) : Bool := 1000000000 ≤ t.nano

/-- The second by which a leap second shifts the distance between two instants: it is counted when
the later time of day is not the one it belongs to. -/
def leapShift (t earlier : Instant) : Int :=
  if earlier.second < t.second then (if earlier.isLeap then 1 else 0)
  else if t.second < earlier.second then (if t.isLeap then -1 else 0)
  else 0

/-- The nanoseconds from one instant to another. -/
def nanosSince (t earlier : Instant) : Int :=
  ((t.day - earlier.day) * 86400 + ((t.second : Int) - earlier.second) + leapShift t earlier)
    * 1000000000 + ((t.nano : Int) - earlier.nano)

/-- The whole milliseconds from one instant to another; zero when the other comes first. -/
def millisSince (t earlier : Instant) : Nat := (t.nanosSince earlier).toNat / 1000000

/-- The date of an instant. -/
def date (t : Instant) : Date := Date.ofDay t.day

end Instant

end Gamebook
