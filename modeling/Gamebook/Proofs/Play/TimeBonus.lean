import Gamebook.Play.Score
import Gamebook.Proofs.Time.Millis

/-!
# The bonus for speed

A score tells how long a game has taken, in whole milliseconds, and pays a point for each minute
that was left of the time that the rules allow. Whatever two instants the clock shows, in whatever
order, both numbers are exact: nothing overflows and nothing is rounded but down to whole
milliseconds and full minutes.

## Key results

- `toNat_totalTimeMillis`: the time that a score tells
- `toNat_timeBonusAt`: the bonus, without words that are too short for it
- `timeBonusAt_antitone`: time never adds to the bonus
- `time_bonus_exact`: time and bonus over the whole range of instants
-/

namespace Gamebook

namespace Score

/-- The time that a score tells, as a number. -/
theorem toNat_totalTimeMillis (activity : Activity) (rules : Rules) (state : State)
    (log : List Step) (now : Instant) :
    (compute activity rules state log now).totalTimeMillis.toNat =
      now.millisSince state.startTime :=
  Instant.toNat_toUInt64_millisSince now state.startTime

/-- The bonus is what the full minutes leave of the time allowed. -/
theorem toNat_timeBonusAt (rules : Rules) (startTime now : Instant) :
    (timeBonusAt rules startTime now).toNat =
      rules.timeBonusMinutes.toNat - now.millisSince startTime / 60000 := by
  -- More minutes than a word can count are more than any rules allow.
  have hallowed : rules.timeBonusMinutes.toNat ≤ maxUInt32 :=
    Nat.le_of_lt_succ rules.timeBonusMinutes.toNat_lt
  have hcounted : (UInt32.ofNat (min maxUInt32 (now.millisSince startTime / 60000))).toNat =
      min maxUInt32 (now.millisSince startTime / 60000) :=
    UInt32.toNat_ofNat_of_lt' (Nat.lt_of_le_of_lt (Nat.min_le_left _ _) (by decide))
  unfold timeBonusAt
  rw [toNat_subCapped, hcounted]
  omega

/-- Time never adds to the bonus. -/
theorem timeBonusAt_antitone (rules : Rules) {startTime now later : Instant}
    (h : now.millisSince startTime ≤ later.millisSince startTime) :
    timeBonusAt rules startTime later ≤ timeBonusAt rules startTime now := by
  rw [UInt32.le_iff_toNat_le, toNat_timeBonusAt, toNat_timeBonusAt]
  exact Nat.sub_le_sub_left (Nat.div_le_div_right h) _

/-- For any start of a game and any later or earlier moment, leap seconds aside, the time between
them is the difference of the two instants, which a signed word of 64 bits holds in milliseconds.
The score of that moment tells it in whole milliseconds, or none if the moment comes first, and the
bonus is what its full minutes leave of the minutes that the rules allow. At no later moment is the
bonus greater or the time shorter. -/
theorem time_bonus_exact (activity : Activity) (rules : Rules) (state : State) (log : List Step)
    (now : Instant) (hstart : state.startTime.isLeap = false) (hnow : now.isLeap = false) :
    let elapsed := now.nanos - state.startTime.nanos
    let score := compute activity rules state log now
    now.nanosSince state.startTime = elapsed ∧
    (-maxInt64 * 1000000 ≤ elapsed ∧ elapsed ≤ maxInt64 * 1000000) ∧
    (score.totalTimeMillis.toNat : Int) = max 0 elapsed / 1000000 ∧
    score.timeBonus.toNat =
      rules.timeBonusMinutes.toNat - score.totalTimeMillis.toNat / 60000 ∧
    ∀ later : Instant, later.isLeap = false → now.nanos ≤ later.nanos →
      let laterScore := compute activity rules state log later
      laterScore.timeBonus ≤ score.timeBonus ∧
      score.totalTimeMillis ≤ laterScore.totalTimeMillis := by
  intro elapsed score
  have hsince : now.nanosSince state.startTime = elapsed := Instant.nanosSince_eq hnow hstart
  refine ⟨hsince, ?_, ?_, ?_, fun later hlater hle => ?_⟩
  · rw [← hsince]
    exact Instant.nanosSince_bounds now state.startTime
  · rw [toNat_totalTimeMillis, Instant.natCast_millisSince, hsince]
  · rw [toNat_totalTimeMillis]
    exact toNat_timeBonusAt rules state.startTime now
  -- A later moment is a longer time from the same start.
  · have hlonger : now.millisSince state.startTime ≤ later.millisSince state.startTime := by
      refine Instant.millisSince_mono ?_
      rw [hsince, Instant.nanosSince_eq hlater hstart]
      exact Int.sub_le_sub_right hle _
    refine ⟨timeBonusAt_antitone rules hlonger, ?_⟩
    rw [UInt64.le_iff_toNat_le, toNat_totalTimeMillis, toNat_totalTimeMillis]
    exact hlonger

/-! ### Around midnight -/

/-- A story that is slept through. -/
def nightStory : Activity where
  id := "night"
  title := "Night"
  startingSceneId := "bed"
  scenes := []

/-- A game that was started a little less than a millisecond before the first midnight after the
epoch. -/
def nightState : State :=
  State.start { startTime := Instant.ofNanos? 86399999000001 } "bed" .epoch

/-- A nanosecond less than two minutes later. -/
def nightWaking : Instant := (Instant.ofNanos? 86519999000000).getD .epoch

/-- The last of all instants, more minutes later than a word of 32 bits can count. -/
def nightEnd : Instant := (Instant.ofNanos? 8210266876799999999999).getD .epoch

/-- A clock that is slow shows no time at all, the second minute counts only when it is full, and at
the last of all instants nothing is left of the bonus. -/
theorem time_bonus_exact_nightStory :
    let slow := compute nightStory {} nightState [] .epoch
    let waking := compute nightStory {} nightState [] nightWaking
    let last := compute nightStory {} nightState [] nightEnd
    nightState.startTime.isLeap = false ∧ Instant.epoch.isLeap = false ∧
    nightWaking.isLeap = false ∧ nightEnd.isLeap = false ∧
    nightWaking.nanos ≤ nightEnd.nanos ∧
    slow.totalTimeMillis.toNat = 0 ∧ slow.timeBonus.toNat = 100 ∧
    waking.totalTimeMillis.toNat = 119999 ∧ waking.timeBonus.toNat = 99 ∧
    last.totalTimeMillis.toNat = 8210266790400000 ∧ last.timeBonus.toNat = 0 ∧
    last.timeBonus ≤ waking.timeBonus ∧ waking.totalTimeMillis ≤ last.totalTimeMillis := by
  intro slow waking last
  have hstart : nightState.startTime.isLeap = false := by decide
  obtain ⟨-, -, hslowTime, hslow, -⟩ :=
    time_bonus_exact nightStory {} nightState [] .epoch hstart (by decide)
  obtain ⟨-, -, hwakingTime, hwaking, hlater⟩ :=
    time_bonus_exact nightStory {} nightState [] nightWaking hstart (by decide)
  obtain ⟨-, -, hlastTime, hlast, -⟩ :=
    time_bonus_exact nightStory {} nightState [] nightEnd hstart (by decide)
  replace hslowTime : slow.totalTimeMillis.toNat = 0 := Int.ofNat_inj.1 hslowTime
  replace hwakingTime : waking.totalTimeMillis.toNat = 119999 := Int.ofNat_inj.1 hwakingTime
  replace hlastTime : last.totalTimeMillis.toNat = 8210266790400000 := Int.ofNat_inj.1 hlastTime
  rw [hslowTime] at hslow
  rw [hwakingTime] at hwaking
  rw [hlastTime] at hlast
  obtain ⟨hbonus, htime⟩ := hlater nightEnd (by decide) (by decide)
  exact ⟨hstart, by decide, by decide, by decide, by decide, hslowTime, hslow, hwakingTime, hwaking,
    hlastTime, hlast, hbonus, htime⟩

end Score

end Gamebook
