import Gamebook.Time.Instant

/-!
# Clocks

What a clock shows while a game is played, and a clock that only moves when it is told to, for games
that are played in steps.
-/

namespace Gamebook

/-- What a clock shows in the course of one move. It is looked at again for the result of a story
that the move ends. -/
structure Readings where
  first : Instant
  second : Instant
  deriving DecidableEq

namespace Readings

/-- The readings of a clock that stands still during a move. -/
def still (now : Instant) : Readings := ⟨now, now⟩

/-- The readings of a clock that stands at the epoch. -/
def epoch : Readings := still .epoch

end Readings

/-- A clock, as milliseconds since the epoch. -/
structure Clock where
  millis : Int64
  deriving DecidableEq

namespace Clock

/-- Moves a clock, forward or back. It wraps around at the ends of its range. -/
def advance (clock : Clock) (millis : Int64) : Clock := ⟨clock.millis + millis⟩

/-- The time that a clock shows: the epoch when it stands outside the range of instants. -/
def now (clock : Clock) : Instant := (Instant.ofMillis? clock.millis.toInt).getD .epoch

end Clock

end Gamebook
