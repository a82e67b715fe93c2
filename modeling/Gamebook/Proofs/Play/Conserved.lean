import Gamebook.Proofs.Play.Replay
import Gamebook.Proofs.Play.Resume
import Gamebook.Proofs.Play.Scored
import Gamebook.Proofs.Time.Millis

/-!
# Time is conserved

Each step of the log takes the time since the step before, so on a clock that never goes back the
steps together take all the time from the start of a game to its last choice. Looks, refusals and
objectives in between take no time of their own. A game that loads one of its own snapshots goes
back to an earlier log, and to the last choice of that log with it.

## Key results

- `Steady`: the readings of a clock that shows whole milliseconds and never goes back
- `LoadsOwn`: the plays that load nothing but what the game saved itself
- `Timed`: the steps of a game take the time up to its last choice
- `Timed.take` / `timed_step`: what one move keeps
- `readings`: all that the clock shows in a play
- `steady_move`: what a steady clock shows during a move
- `steady_map_now`: a clock that is set by hand is steady
- `timed_played`: what a whole play keeps
- `time_is_conserved`: the accounts of time in every play
-/

namespace Gamebook

/-- Whether a clock shows whole milliseconds and never goes back. -/
structure Steady (readings : List Instant) : Prop where
  onMillis : ∀ t ∈ readings, t.OnMillis
  forward : readings.Pairwise (·.millis ≤ ·.millis)

instance decidableSteady (readings : List Instant) : Decidable (Steady readings) :=
  decidable_of_iff
    ((∀ t ∈ readings, t.OnMillis) ∧ readings.Pairwise (·.millis ≤ ·.millis))
    ⟨fun h => ⟨h.1, h.2⟩, fun h => ⟨h.onMillis, h.forward⟩⟩

/-- The milliseconds that some steps take together. -/
def timeSpent (steps : List Step) : Nat := (steps.map (·.timeSpent.toNat)).sum

/-- The time of two parts of a log adds up. -/
theorem timeSpent_append (steps more : List Step) :
    timeSpent (steps ++ more) = timeSpent steps + timeSpent more := by
  unfold timeSpent
  rw [List.map_append, List.sum_append]

/-- The score in an answer: the one that was asked for, or the one that a choice brings. -/
def Answer.score? : Answer → Option Score
  | .score told => some told
  | .outcome reply => reply.score
  | _ => none

namespace Game

/-- Whether a play loads nothing but what the game saved itself, at any point before. -/
def LoadsOwn (game : Game) (moves : List (Readings × Move)) : Prop :=
  ∀ earlier clock snapshot later, moves = earlier ++ (clock, .load snapshot) :: later →
    ∃ before, before <+: earlier ∧ snapshot = (game.played before).save

/-- Whether the steps of a game take the time from its start to its last choice, which lies no later
than `latest` milliseconds after the epoch. -/
structure Timed (start : Instant) (latest : Int) (game : Game) : Prop where
  startTime_eq : game.state.startTime = start
  start_onMillis : start.OnMillis
  last_onMillis : game.state.lastSaveTime.OnMillis
  last_le : game.state.lastSaveTime.millis ≤ latest
  spent_eq : (timeSpent game.log : Int) = game.state.lastSaveTime.millis - start.millis
  stamped : ∀ (k : Nat) (step : Step), game.log[k]? = some step →
    Instant.ofMillis? (start.millis + timeSpent (game.log.take (k + 1))) = some step.timestamp

variable {begin : Instant} {latest : Int} {game : Game}

/-- Some moment is later than finitely many others. -/
private theorem exists_millis_le (times : List Instant) :
    ∃ latest, ∀ t ∈ times, t.millis ≤ latest := by
  induction times with
  | nil => exact ⟨0, List.forall_mem_nil _⟩
  | cons t times ih =>
    obtain ⟨latest, hlatest⟩ := ih
    exact ⟨max t.millis latest, List.forall_mem_cons.2
      ⟨Int.le_max_left _ _, fun u hu => Int.le_trans (hlatest u hu) (Int.le_max_right _ _)⟩⟩

/-! ## One move -/

/-- A fresh game begins on time, with nothing spent. -/
theorem timed_start (activity : Activity) (rules : Rules) {initial : InitialState}
    (hstart : initial.startTime = none) (hlast : initial.lastSaveTime = none) {now : Instant}
    (hnow : now.OnMillis) : Timed now now.millis (start activity rules initial now) := by
  have hbegin : (start activity rules initial now).state.startTime = now := by
    show initial.startTime.getD now = now
    rw [hstart, Option.getD_none]
  have hsaved : (start activity rules initial now).state.lastSaveTime = now := by
    show initial.lastSaveTime.getD (initial.startTime.getD now) = now
    rw [hstart, hlast, Option.getD_none, Option.getD_none]
  refine ⟨hbegin, hnow, ?_, ?_, ?_, fun k step hstep => ?_⟩
  -- The last save time is the start, so no time lies between them.
  · rw [hsaved]
    exact hnow
  · rw [hsaved]
  · rw [hsaved, Int.sub_self]
    rfl
  · cases hstep

/-- What was on time stays so while the clock goes on. -/
theorem Timed.mono (h : Timed begin latest game) {later : Int} (hle : latest ≤ later) :
    Timed begin later game :=
  { h with last_le := Int.le_trans h.last_le hle }

/-- What leaves the log and the times alone keeps the account of time. -/
theorem Timed.congr (h : Timed begin latest game) {other : Game} (hlog : other.log = game.log)
    (hstart : other.state.startTime = game.state.startTime)
    (hlast : other.state.lastSaveTime = game.state.lastSaveTime) : Timed begin latest other := by
  obtain ⟨hbegin, honMillis, hsaved, hle, hspent, hstamped⟩ := h
  refine ⟨hstart.trans hbegin, honMillis, hlast ▸ hsaved, hlast ▸ hle, ?_, ?_⟩
  · rw [hlog, hlast, hspent]
  · rw [hlog]
    exact hstamped

/-- The step that is logged takes the time since the last choice. -/
theorem Timed.timeSpent_stepOf (h : Timed begin latest game) {now : Instant}
    (hnow : now.OnMillis) (hlatest : latest ≤ now.millis) (scene : Scene) (choice : Choice) :
    (timeSpent [game.stepOf scene choice now] : Int) =
      now.millis - game.state.lastSaveTime.millis := by
  have hword := Instant.toNat_toUInt64_millisSince now game.state.lastSaveTime
  have hsince := Instant.millisSince_eq hnow h.last_onMillis
  have hle := h.last_le
  have hstep : timeSpent [game.stepOf scene choice now] =
      (now.millisSince game.state.lastSaveTime).toUInt64.toNat := Nat.add_zero _
  rw [hstep, hword, hsince]
  omega

/-- A choice is entered into the account of time. -/
theorem Timed.take (h : Timed begin latest game) {now : Instant} (hnow : now.OnMillis)
    (hlatest : latest ≤ now.millis) (scene : Scene) (choice : Choice) :
    Timed begin now.millis (game.after scene choice now) := by
  -- The time up to the last choice and the time since then make up the whole.
  have hsum : begin.millis + (timeSpent game.log +
      timeSpent [game.stepOf scene choice now] : Nat) = now.millis := by
    have hstep := h.timeSpent_stepOf hnow hlatest scene choice
    have hspent := h.spent_eq
    omega
  have hlast := lastSaveTime_after game scene choice now
  refine ⟨(startTime_after ..).trans h.startTime_eq, h.start_onMillis, ?_, ?_, ?_,
    fun k step hstep => ?_⟩
  · rw [hlast]
    exact hnow
  · rw [hlast]
  · rw [hlast, after_log, timeSpent_append]
    omega
  -- A step is dated by the time that is spent up to it.
  · rw [after_log] at hstep ⊢
    rcases Nat.lt_or_ge k game.log.length with hearlier | hnew
    · -- What was logged before stands where it stood.
      rw [List.getElem?_append_left hearlier] at hstep
      rw [List.take_append_of_le_length hearlier]
      exact h.stamped k step hstep
    · rw [List.getElem?_append_right hnew, List.getElem?_singleton] at hstep
      split at hstep
      next hk =>
        obtain rfl := Option.some.inj hstep
        rw [List.take_of_length_le (by simp; omega), timeSpent_append, hsum]
        exact hnow
      next => cases hstep

/-- No move but loading breaks the account of time. -/
theorem timed_step (h : Timed begin latest game) {clock : Readings} (hclock : clock.first.OnMillis)
    (hlatest : latest ≤ clock.first.millis) {move : Move} (hmove : move.isLoad = false) :
    Timed begin clock.first.millis (game.step clock move).2 := by
  -- Only a choice moves the account, and all else keeps what it says.
  have hkept : Timed begin clock.first.millis game := h.mono hlatest
  have hchange := change_step game clock move
  generalize (game.step clock move).2 = next at hchange ⊢
  cases hchange with
  | stay => exact hkept
  | enter => exact hkept.congr rfl rfl rfl
  | complete objective =>
    obtain ⟨objectives, hstate⟩ := State.exists_complete_eq game.state objective
    unfold Game.complete
    rw [hstate]
    exact hkept.congr rfl rfl rfl
  | load snapshot => cases hmove
  | take => exact h.take hclock hlatest _ _

/-- A game that loads the snapshot of another one has the account of that one. -/
theorem Timed.load (other : Game) (h : Timed begin latest game) :
    Timed begin latest (other.load game.save) := by
  have hstate : (other.load game.save).state = game.state := Snapshot.state_capture _ _
  exact h.congr rfl (by rw [hstate]) (by rw [hstate])

/-- A score takes at least the time of the log of its game. -/
theorem Timed.timeSpent_le_score (h : Timed begin latest game) {now : Instant}
    (hnow : now.OnMillis) (hlatest : latest ≤ now.millis) :
    timeSpent game.log ≤ (game.score now).totalTimeMillis.toNat := by
  have htotal : (game.score now).totalTimeMillis.toNat = now.millisSince begin := by
    rw [← h.startTime_eq]
    exact Instant.toNat_toUInt64_millisSince now game.state.startTime
  have hspent := h.spent_eq
  have hle := h.last_le
  rw [htotal, Instant.millisSince_eq hnow h.start_onMillis]
  omega

/-- A score that is told with a move is that of the game after it, at a moment of the move. -/
theorem eq_score_of_mem_step {clock : Readings} {move : Move} {score : Score}
    (hscore : score ∈ (game.step clock move).1.score?) :
    move.isLoad = false ∧
      (score = (game.step clock move).2.score clock.first ∨
        score = (game.step clock move).2.score clock.second) := by
  cases move with
  | score => exact ⟨rfl, .inl (Option.mem_some.1 hscore).symm⟩
  | choose choiceId =>
    cases hfind : game.find choiceId with
    | ok found =>
      rw [step_choose_ok hfind] at hscore ⊢
      have htold : score ∈
          (outcome found.2 (game.after found.1 found.2 clock.first) clock.second).score := hscore
      exact ⟨rfl, .inr (eq_score_of_mem htold)⟩
    | error refusal =>
      rw [step_choose_error hfind] at hscore
      cases hscore
  -- The other moves tell no score.
  | _ => cases hscore

/-! ## The clock of a play -/

/-- All that the clock shows in a play that begins at a moment, one reading after the other. -/
def readings (now : Instant) (moves : List (Readings × Move)) : List Instant :=
  now :: moves.flatMap fun m => [m.1.first, m.1.second]

/-- The readings of two parts of a play follow each other. -/
theorem readings_append (now : Instant) (moves more : List (Readings × Move)) :
    readings now (moves ++ more) =
      readings now moves ++ more.flatMap fun m => [m.1.first, m.1.second] := by
  unfold readings
  rw [List.flatMap_append]
  rfl

/-- What the clock has shown in a part of a play, it has shown in the whole. -/
theorem readings_subset (now : Instant) {before moves : List (Readings × Move)}
    (hbefore : before <+: moves) : readings now before ⊆ readings now moves := by
  obtain ⟨rest, rfl⟩ := hbefore
  rw [readings_append]
  exact List.subset_append_left _ _

/-- On a steady clock each move is made on whole milliseconds, no earlier than anything the clock
has shown before, and ends no earlier than it begins. -/
theorem steady_move {now : Instant} {moves init : List (Readings × Move)} {clock : Readings}
    {move : Move} (hclock : Steady (readings now moves))
    (hpart : init ++ [(clock, move)] <+: moves) :
    clock.first.OnMillis ∧ clock.second.OnMillis ∧ clock.first.millis ≤ clock.second.millis ∧
      ∀ t ∈ readings now init, t.millis ≤ clock.first.millis := by
  obtain ⟨rest, rfl⟩ := hpart
  obtain ⟨honMillis, hforward⟩ := hclock
  rw [readings_append, readings_append, List.append_assoc] at honMillis hforward
  -- The readings of the move come after all that were read before it.
  obtain ⟨-, hafter, hacross⟩ := List.pairwise_append.1 hforward
  have hfirst : clock.first ∈ [(clock, move)].flatMap (fun m => [m.1.first, m.1.second]) ++
      rest.flatMap (fun m => [m.1.first, m.1.second]) := by simp
  refine ⟨honMillis _ (by simp), honMillis _ (by simp), ?_, fun t ht => hacross t ht _ hfirst⟩
  exact (List.pairwise_cons.1 hafter).1 clock.second (by simp)

/-- Clocks that are set by hand, and never back, are steady. -/
theorem steady_map_now {clocks : List Clock}
    (hforward : clocks.Pairwise (·.now.millis ≤ ·.now.millis)) : Steady (clocks.map Clock.now) := by
  refine ⟨fun t ht => ?_, List.pairwise_map.2 hforward⟩
  obtain ⟨clock, -, rfl⟩ := List.mem_map.1 ht
  exact clock.onMillis_now

/-! ## Whole plays -/

/-- A play of which the last move is made once all others are. -/
theorem played_concat (game : Game) (moves : List (Readings × Move)) (clock : Readings)
    (move : Move) :
    game.played (moves ++ [(clock, move)]) = ((game.played moves).step clock move).2 :=
  played_append game moves [(clock, move)]

/-- After every part of a play the steps take the time up to the last choice, and that lies no later
than any moment that the clock has not passed yet. -/
theorem timed_played {first : Game} {now : Instant} (hfirst : Timed now now.millis first)
    (moves : List (Readings × Move)) (hclock : Steady (readings now moves))
    (hloads : first.LoadsOwn moves) {before : List (Readings × Move)} (hbefore : before <+: moves)
    {latest : Int} (hlatest : ∀ t ∈ readings now before, t.millis ≤ latest) :
    Timed now latest (first.played before) := by
  -- By induction on the play from its right end, since a load may go back to any part before it.
  induction hlength : before.length using Nat.strongRecOn generalizing before latest with
  | ind length ih =>
    -- An empty part is the fresh game, and any other ends with a move.
    rcases List.eq_nil_or_concat' before with rfl | ⟨init, ⟨clock, move⟩, rfl⟩
    · exact hfirst.mono (hlatest now List.mem_cons_self)
    · have hinit : init.length < length := by
        rw [← hlength, List.length_append, List.length_singleton]
        omega
      obtain ⟨honMillis, -, -, hpast⟩ := steady_move hclock hbefore
      have hle : clock.first.millis ≤ latest := by
        refine hlatest _ ?_
        rw [readings_append]
        simp
      -- When the last move begins, the clock has passed all that any earlier part has seen.
      have hrun : ∀ earlier, earlier <+: init →
          Timed now clock.first.millis (first.played earlier) := by
        intro earlier hearlier
        have hpart : earlier <+: moves :=
          hearlier.trans ((List.prefix_append init [(clock, move)]).trans hbefore)
        exact ih earlier.length (Nat.lt_of_le_of_lt hearlier.length_le hinit) hpart
          (fun t ht => hpast t (readings_subset now hearlier ht)) rfl
      rw [played_concat]
      cases hmove : move.isLoad with
      | false =>
        exact (timed_step (hrun init (List.prefix_refl _)) honMillis (Int.le_refl _) hmove).mono hle
      | true =>
        -- What is loaded was saved after a part of the play, for which the account holds.
        obtain ⟨snapshot, rfl⟩ : ∃ snapshot, move = .load snapshot := by
          cases move with
          | load snapshot => exact ⟨snapshot, rfl⟩
          | _ => cases hmove
        obtain ⟨rest, rfl⟩ := hbefore
        obtain ⟨earlier, hearlier, rfl⟩ := hloads init clock snapshot rest (by simp)
        exact ((hrun earlier hearlier).load _).mono hle

/-- The answer to a move of a play is given in the game that the moves before it lead to. -/
theorem getElem?_run {game : Game} {moves : List (Readings × Move)} {k : Nat} {answer : Answer}
    (hanswer : (game.run moves).1[k]? = some answer) :
    ∃ clock move, moves.take (k + 1) = moves.take k ++ [(clock, move)] ∧
      answer = ((game.played (moves.take k)).step clock move).1 := by
  induction moves generalizing game k with
  | nil => cases hanswer
  | cons m moves ih =>
    obtain ⟨clock, move⟩ := m
    rw [run_cons] at hanswer
    -- The first answer is given right away, and later ones in the game after the first move.
    cases k with
    | zero => exact ⟨clock, move, rfl, (Option.some.inj hanswer).symm⟩
    | succ k =>
      obtain ⟨clock', move', htake, hgiven⟩ := ih hanswer
      exact ⟨clock', move', congrArg ((clock, move) :: ·) htake, hgiven⟩

/-- In a play from the start, on a clock that shows whole milliseconds and never goes back, and
which loads nothing but snapshots of the game itself, the steps of the log take exactly the time
from the start to the last choice. Each of them is stamped with the time that it and those before it
take from the start on. The total time of every score that is told on the way is at least that of
the log of the game at that moment. -/
theorem time_is_conserved (activity : Activity) (rules : Rules) (initial : InitialState)
    (hstart : initial.startTime = none) (hlast : initial.lastSaveTime = none) (now : Instant)
    (moves : List (Readings × Move)) (hclock : Steady (readings now moves))
    (hloads : (start activity rules initial now).LoadsOwn moves) :
    let fresh := start activity rules initial now
    let game := fresh.played moves
    game.state.startTime = now ∧
    (timeSpent game.log : Int) =
      game.state.lastSaveTime.millis - game.state.startTime.millis ∧
    (∀ (k : Nat) (step : Step), game.log[k]? = some step →
      Instant.ofMillis? (game.state.startTime.millis + timeSpent (game.log.take (k + 1))) =
        some step.timestamp) ∧
    ∀ (k : Nat) (answer : Answer), (fresh.run moves).1[k]? = some answer →
      ∀ score ∈ answer.score?,
        timeSpent (fresh.played (moves.take (k + 1))).log ≤ score.totalTimeMillis.toNat := by
  intro fresh game
  have hnow : now.OnMillis := hclock.onMillis now List.mem_cons_self
  -- The account holds after every part of the play, as late as its last reading.
  have hfresh : Timed now now.millis fresh := timed_start activity rules hstart hlast hnow
  have hplayed : ∀ before latest, before <+: moves →
      (∀ t ∈ readings now before, t.millis ≤ latest) →
      Timed now latest (fresh.played before) := fun before latest hbefore hlatest =>
    timed_played hfresh moves hclock hloads hbefore hlatest
  -- Nothing is later than the last reading of the clock.
  obtain ⟨latest, hlatest⟩ : ∃ latest, ∀ t ∈ readings now moves, t.millis ≤ latest :=
    exists_millis_le (readings now moves)
  have hgame : Timed now latest game := hplayed moves latest (List.prefix_refl _) hlatest
  refine ⟨hgame.startTime_eq, ?_, ?_, fun k answer hanswer score hscore => ?_⟩
  · rw [hgame.startTime_eq]
    exact hgame.spent_eq
  · rw [hgame.startTime_eq]
    exact hgame.stamped
  · obtain ⟨clock, move, htake, rfl⟩ := getElem?_run hanswer
    have hpart : moves.take k ++ [(clock, move)] <+: moves := htake ▸ List.take_prefix _ _
    obtain ⟨hfirst, hsecond, hforward, hpast⟩ := steady_move hclock hpart
    obtain ⟨hmove, hscore⟩ := eq_score_of_mem_step hscore
    have hbefore := hplayed _ _ (List.take_prefix k moves) hpast
    have htimed := timed_step hbefore hfirst (Int.le_refl _) hmove
    rw [htake, played_concat]
    -- The score is told when the move begins or when it ends, and the log is no later than either.
    rcases hscore with rfl | rfl
    · exact htimed.timeSpent_le_score hfirst (Int.le_refl _)
    · exact htimed.timeSpent_le_score hsecond hforward

/-! ### A hall that is searched twice -/

/-- Moves that are made while a clock that is set by hand shows two times. -/
def timedMoves (moves : List ((Int64 × Int64) × Move)) : List (Readings × Move) :=
  moves.map fun ((first, second), move) => (⟨Clock.now ⟨first⟩, Clock.now ⟨second⟩⟩, move)

/-- A play of the crooked story on a clock that moves on, also during the moves: a look, a choice
and a refused one. -/
def pausedMoves : List (Readings × Move) :=
  timedMoves [((0, 0), .look), ((1500, 1550), .choose "walk"), ((1600, 1600), .choose "fly")]

/-- What the game saves after the first moves. -/
def pausedSnapshot : Snapshot := ((start crookedStory {} {} .epoch).played pausedMoves).save

/-- The play goes on, but loads that snapshot and goes on from there once more. -/
def searchedTwiceMoves : List (Readings × Move) :=
  pausedMoves ++ timedMoves
    [((2500, 2600), .choose "search"), ((3000, 3000), .load pausedSnapshot),
      ((4000, 4005), .choose "search"), ((4005, 4005), .choose "open"), ((5000, 5000), .score)]

/-- After the search was taken back, the log takes its time from the choice before. The score that
comes with the last choice counts all of it. -/
theorem time_is_conserved_crookedStory :
    Steady (readings .epoch searchedTwiceMoves) ∧
    (start crookedStory {} {} .epoch).LoadsOwn searchedTwiceMoves ∧
    let fresh := start crookedStory {} {} .epoch
    let game := fresh.played searchedTwiceMoves
    game.log.map (·.timeSpent) = [1500, 2500, 5] ∧
    (timeSpent game.log : Int) =
      game.state.lastSaveTime.millis - game.state.startTime.millis ∧
    ∃ answer score, (fresh.run searchedTwiceMoves).1[6]? = some answer ∧
      answer.score? = some score ∧ 4005 ≤ score.totalTimeMillis.toNat := by
  -- The clock shows whole milliseconds and never goes back.
  have hclock : Steady (readings .epoch searchedTwiceMoves) := by
    let shown : List Int64 := [0, 0, 0, 1500, 1550, 1600, 1600, 2500, 2600, 3000, 3000, 4000, 4005,
      4005, 4005, 5000, 5000]
    have hreadings : readings .epoch searchedTwiceMoves =
        (shown.map Clock.mk).map Clock.now := by decide +kernel
    rw [hreadings]
    exact steady_map_now (by decide +kernel)
  have hloads : (start crookedStory {} {} .epoch).LoadsOwn searchedTwiceMoves := by
    intro earlier clock snapshot later hmoves
    have hat : searchedTwiceMoves[earlier.length]? = some (clock, .load snapshot) := by
      rw [hmoves]
      simp
    have htake : searchedTwiceMoves.take earlier.length = earlier := by
      rw [hmoves]
      simp
    -- There is only one load in the play.
    have honly : ∀ k < searchedTwiceMoves.length,
        searchedTwiceMoves[k]?.any (·.2.isLoad) = true → k = 4 := by decide
    have hlength : earlier.length = 4 :=
      honly earlier.length (by rw [hmoves]; simp) (by rw [hat]; rfl)
    rw [hlength] at hat htake
    have hsnapshot : pausedSnapshot = snapshot :=
      Move.load.inj (Prod.mk.inj (Option.some.inj hat)).2
    exact ⟨pausedMoves, ⟨[_], htake⟩, hsnapshot.symm⟩
  obtain ⟨-, hspent, -, hscores⟩ :=
    time_is_conserved crookedStory {} {} rfl rfl .epoch searchedTwiceMoves hclock hloads
  refine ⟨hclock, hloads, ?_⟩
  intro fresh game
  have hlog : timeSpent (fresh.played (searchedTwiceMoves.take 7)).log = 4005 := by decide +kernel
  obtain ⟨answer, score, hanswer, hscore⟩ : ∃ answer score,
      (fresh.run searchedTwiceMoves).1[6]? = some answer ∧ answer.score? = some score :=
    ⟨_, _, rfl, rfl⟩
  exact ⟨by decide +kernel, hspent, answer, score, hanswer, hscore,
    hlog ▸ hscores 6 answer hanswer score hscore⟩

end Game

end Gamebook
