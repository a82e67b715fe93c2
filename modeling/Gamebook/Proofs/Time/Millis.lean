import Gamebook.Play.Clock
import Gamebook.Word

/-!
# Elapsed time

Away from leap seconds an instant is a number of nanoseconds from the epoch, and the time between
two instants is the difference of their numbers. It is told in whole milliseconds, and nothing of it
is lost when it is kept in a word of 64 bits. Clocks that are set by hand show whole milliseconds
anyway.

## Key results

- `ofNanos?_eq_some_iff`: an instant outside leap seconds is what its number of nanoseconds leads to
- `nanosSince_eq`: the time between two of them
- `nanosSince_bounds`: how long the time between two instants can be
- `natCast_millisSince` / `millisSince_mono`: the whole milliseconds of it
- `OnMillis`: the instants that are a whole number of milliseconds from the epoch
- `onMillis_iff`: they are what `ofMillis?` gives
- `millisSince_eq`: the time between two of them
- `onMillis_now`: a clock shows nothing else
-/

namespace Gamebook

namespace Instant

variable {t earlier later : Instant}

/-! ## Nanoseconds -/

/-- The nanoseconds from the epoch to an instant outside leap seconds. -/
def nanos (t : Instant) : Int := (t.day * 86400 + t.second) * 1000000000 + t.nano

/-- The parts of what a number of nanoseconds leads to. -/
private theorem parts_of_ofNanos? {nanos : Int} {t : Instant} (h : ofNanos? nanos = some t) :
    t.day = nanos / 86400000000000 ∧
    t.second = (nanos % 86400000000000).toNat / 1000000000 ∧
    t.nano = (nanos % 1000000000).toNat := by
  unfold ofNanos? ofParts? at h
  split at h
  · obtain rfl := Option.some.inj h
    exact ⟨rfl, rfl, rfl⟩
  · cases h

/-- An instant outside leap seconds is what its number of nanoseconds leads to, and no other number
leads there. -/
theorem ofNanos?_eq_some_iff {nanos : Int} :
    ofNanos? nanos = some t ↔ t.isLeap = false ∧ t.nanos = nanos := by
  constructor
  · intro h
    obtain ⟨hday, hsecond, hnano⟩ := parts_of_ofNanos? h
    have hleap : t.isLeap = false := decide_eq_false (by omega)
    refine ⟨hleap, ?_⟩
    unfold Instant.nanos
    omega
  · rintro ⟨hleap, rfl⟩
    have hnano : t.nano < 1000000000 := Nat.lt_of_not_le (of_decide_eq_false hleap)
    have hsecond := t.second_lt
    -- The parts are the digits of the number, to the bases of a second and a day.
    have hdayPart : t.nanos / 86400000000000 = t.day := by
      unfold Instant.nanos
      omega
    have hsecondPart : (t.nanos % 86400000000000).toNat / 1000000000 = t.second := by
      unfold Instant.nanos
      omega
    have hnanoPart : (t.nanos % 1000000000).toNat = t.nano := by
      unfold Instant.nanos
      omega
    unfold ofNanos?
    rw [hdayPart, hsecondPart, hnanoPart]
    exact dif_pos ⟨t.day_ge, t.day_le, t.second_lt, t.nano_lt⟩

/-- Leap seconds shift a distance by a second at the most. -/
private theorem leapShift_bounds (t earlier : Instant) :
    -1 ≤ t.leapShift earlier ∧ t.leapShift earlier ≤ 1 := by
  unfold leapShift
  split
  · split <;> decide
  · split
    · split <;> decide
    · decide

/-- Without leap seconds no second is counted twice. -/
private theorem leapShift_eq_zero (ht : t.isLeap = false) (hearlier : earlier.isLeap = false) :
    t.leapShift earlier = 0 := by
  unfold leapShift
  rw [ht, hearlier]
  simp

/-- The time from one instant outside leap seconds to another, which is negative if that comes
first. -/
theorem nanosSince_eq (ht : t.isLeap = false) (hearlier : earlier.isLeap = false) :
    t.nanosSince earlier = t.nanos - earlier.nanos := by
  unfold nanosSince nanos
  rw [leapShift_eq_zero ht hearlier]
  omega

/-- The range of instants is short enough for a signed word of 64 bits to hold the milliseconds of
every time in it, in either direction. -/
theorem nanosSince_bounds (t earlier : Instant) :
    -maxInt64 * 1000000 ≤ t.nanosSince earlier ∧ t.nanosSince earlier ≤ maxInt64 * 1000000 := by
  obtain ⟨hshift, hshift'⟩ := leapShift_bounds t earlier
  obtain ⟨hday, hday'⟩ := And.intro t.day_ge t.day_le
  obtain ⟨hsince, hsince'⟩ := And.intro earlier.day_ge earlier.day_le
  have hsecond := t.second_lt
  have hsecond' := earlier.second_lt
  have hnano := t.nano_lt
  have hnano' := earlier.nano_lt
  unfold nanosSince maxInt64
  omega

/-! ## Milliseconds -/

/-- The whole milliseconds of the time between two instants, which are none if it is negative. -/
theorem natCast_millisSince (t earlier : Instant) :
    (t.millisSince earlier : Int) = max 0 (t.nanosSince earlier) / 1000000 := by
  unfold millisSince
  omega

/-- A longer time has no fewer milliseconds. -/
theorem millisSince_mono (h : t.nanosSince earlier ≤ later.nanosSince earlier) :
    t.millisSince earlier ≤ later.millisSince earlier := by
  unfold millisSince
  omega

/-- The range of instants is short enough for a word of 64 bits to hold every time in it. -/
theorem toNat_toUInt64_millisSince (t earlier : Instant) :
    (t.millisSince earlier).toUInt64.toNat = t.millisSince earlier := by
  obtain ⟨-, hle⟩ := nanosSince_bounds t earlier
  unfold maxInt64 at hle
  rw [Nat.toUInt64, UInt64.toNat_ofNat']
  unfold millisSince
  omega

/-! ## Instants on whole milliseconds -/

/-- The full milliseconds from the epoch to an instant. -/
def millis (t : Instant) : Int := (t.day * 86400 + t.second) * 1000 + t.nano / 1000000

/-- Whether an instant is a whole number of milliseconds from the epoch. -/
def OnMillis (t : Instant) : Prop := ofMillis? t.millis = some t

instance decidableOnMillis (t : Instant) : Decidable t.OnMillis :=
  inferInstanceAs (Decidable (_ = _))

/-- An instant that a number of milliseconds leads to is that many of them from the epoch, and lies
in no leap second. -/
private theorem parts_of_ofMillis? {ms : Int} {t : Instant} (h : ofMillis? ms = some t) :
    t.millis = ms ∧ t.nano % 1000000 = 0 ∧ t.nano < 1000000000 := by
  obtain ⟨hday, hsecond, hnano⟩ := parts_of_ofNanos? h
  unfold millis
  omega

/-- The instants on whole milliseconds are those that a number of milliseconds leads to. -/
theorem onMillis_iff {t : Instant} : t.OnMillis ↔ ∃ ms, ofMillis? ms = some t := by
  refine ⟨fun h => ⟨_, h⟩, fun ⟨ms, h⟩ => ?_⟩
  unfold OnMillis
  rw [(parts_of_ofMillis? h).1, h]

/-- The time from one instant on whole milliseconds to another, or zero if that comes first. -/
theorem millisSince_eq {t earlier : Instant} (ht : t.OnMillis) (hearlier : earlier.OnMillis) :
    t.millisSince earlier = (t.millis - earlier.millis).toNat := by
  -- Both are away from leap seconds, and nothing is cut off either number.
  obtain ⟨-, hwhole, hleap⟩ := parts_of_ofMillis? ht
  obtain ⟨-, hwhole', hleap'⟩ := parts_of_ofMillis? hearlier
  unfold millisSince
  rw [nanosSince_eq (decide_eq_false (by omega)) (decide_eq_false (by omega))]
  unfold nanos millis
  omega

end Instant

/-- A clock shows whole milliseconds, also where it stands outside the range of instants. -/
theorem Clock.onMillis_now (clock : Clock) : clock.now.OnMillis := by
  unfold Clock.now
  cases h : Instant.ofMillis? clock.millis.toInt with
  | none => decide
  | some t => exact Instant.onMillis_iff.2 ⟨_, h⟩

end Gamebook
