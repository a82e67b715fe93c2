import Gamebook.Proofs.Play.Effects

/-!
# Progress only grows

Nothing that a player has achieved is ever lost, but by loading a saved game: scenes stay visited,
objectives stay marked, points are only added, and the log goes on from where it was. The choices
that are taken are counted in a word, which starts again at zero when it overflows; so the count
only grows in a play for which the word has room.

## Key results

- `Grows`: what a later game of a play has kept of an earlier one
- `grows_step`: each move keeps it
- `grows_played`: so does every play
- `step_outcome?`: a move takes a choice, or it counts none
- `totalChoices_played`: a play counts the choices that it takes
- `HasRoom.toNat_totalChoices`: without an overflow none of them is lost
-/

namespace Gamebook

/-- What follows from a choice, if the answer is about one that was taken. -/
def Answer.outcome? : Answer → Option Outcome
  | .outcome reply => some reply
  | _ => none

/-- What follows from the choices that were taken, in order. -/
def outcomes (answers : List Answer) : List Outcome := answers.filterMap Answer.outcome?

namespace State

/-- An objective that is marked is put at the end of the list, if it is not there already. -/
theorem prefix_complete (s : State) (objective : String) :
    s.completedObjectives <+: (s.complete objective).completedObjectives := by
  unfold complete
  split
  · exact List.prefix_refl _
  · exact List.prefix_append _ _

end State

namespace Game

/-- Whether a game has kept all that was achieved in an earlier one. -/
structure Grows (game later : Game) : Prop where
  activity_eq : later.activity = game.activity
  visited : ∀ id, game.state.hasVisited id = true → later.state.hasVisited id = true
  completed : game.state.completedObjectives <+: later.state.completedObjectives
  points_le : game.state.totalPoints.toNat ≤ later.state.totalPoints.toNat
  log : game.log <+: later.log

variable {game : Game}

/-- A game has kept all of itself. -/
theorem Grows.refl (game : Game) : game.Grows game :=
  ⟨rfl, fun _ h => h, List.prefix_refl _, Nat.le_refl _, List.prefix_refl _⟩

/-- What is kept for two parts of a play is kept for the whole. -/
theorem Grows.trans {later last : Game} (h : game.Grows later) (h' : later.Grows last) :
    game.Grows last :=
  ⟨h'.activity_eq.trans h.activity_eq, fun id hid => h'.visited id (h.visited id hid),
    h.completed.trans h'.completed, Nat.le_trans h.points_le h'.points_le, h.log.trans h'.log⟩

/-- Taking a choice loses nothing. -/
theorem grows_after (game : Game) (scene : Scene) (choice : Choice) (now : Instant) :
    game.Grows (game.after scene choice now) := by
  refine ⟨by rw [after_eq], fun id hid => ?_, ?_, totalPoints_le_after .., ?_⟩
  · rw [hasVisited_after, hid, Bool.or_true, Bool.or_true]
  · simp only [completedObjectives_after, List.prefix_refl]
  · rw [after_log]
    exact List.prefix_append _ _

/-- No move but loading loses anything. -/
theorem grows_step (game : Game) (clock : Readings) {move : Move} (hmove : move.isLoad = false) :
    game.Grows (game.step clock move).2 := by
  have hchange := change_step game clock move
  -- A look enters the scene, an objective is marked behind the others, and a choice is logged.
  generalize (game.step clock move).2 = next at hchange ⊢
  cases hchange with
  | stay => exact .refl game
  | enter =>
    refine ⟨rfl, fun id hid => ?_, List.prefix_refl _, Nat.le_refl _, List.prefix_refl _⟩
    rw [State.hasVisited_visit, hid, Bool.or_true]
  | complete objective =>
    have hprefix := State.prefix_complete game.state objective
    obtain ⟨objectives, hstate⟩ := State.exists_complete_eq game.state objective
    unfold Game.complete
    rw [hstate] at hprefix ⊢
    exact ⟨rfl, fun _ hid => hid, hprefix, Nat.le_refl _, List.prefix_refl _⟩
  | load snapshot => cases hmove
  | take => exact grows_after game _ _ clock.first

/-- No play without loading loses anything. -/
theorem grows_played (game : Game) (moves : List (Readings × Move))
    (hmoves : ∀ m ∈ moves, m.2.isLoad = false) : game.Grows (game.played moves) :=
  played_induction game.Grows (·.isLoad = false)
    (fun later clock _ hmove h => h.trans (grows_step later clock hmove)) moves hmoves game
    (.refl game)

/-! ## Counting choices -/

/-- The number of choices that are taken in a play. -/
def taken (game : Game) (moves : List (Readings × Move)) : Nat :=
  (outcomes (game.run moves).1).length

/-- Whether the count of choices has room for all that are taken in a play. -/
def HasRoom (game : Game) (moves : List (Readings × Move)) : Prop :=
  game.state.totalChoices.toNat + game.taken moves < UInt32.size

instance decidableHasRoom (game : Game) (moves : List (Readings × Move)) :
    Decidable (game.HasRoom moves) :=
  inferInstanceAs (Decidable (_ < _))

variable {next : Game} {clock : Readings} {move : Move} {reply : Outcome}

/-- A move takes a choice and tells what follows from it, or it tells of no choice. -/
theorem step_outcome? (game : Game) (clock : Readings) (move : Move) :
    (∃ scene choice, game.step clock move =
      (.outcome (outcome choice (game.after scene choice clock.first) clock.second),
        game.after scene choice clock.first)) ∨
    (game.step clock move).1.outcome? = none := by
  cases move with
  | choose choiceId =>
    cases hfind : game.find choiceId with
    | ok found => exact .inl ⟨found.1, found.2, step_choose_ok hfind clock⟩
    | error refusal =>
      rw [step_choose_error hfind]
      exact .inr rfl
  | _ => exact .inr rfl

/-- A move that tells of no choice counts none. -/
theorem totalChoices_step_of_none (hmove : move.isLoad = false)
    (hnone : (game.step clock move).1.outcome? = none) :
    (game.step clock move).2.state.totalChoices = game.state.totalChoices := by
  cases move with
  | choose choiceId =>
    cases hfind : game.find choiceId with
    | ok found =>
      rw [step_choose_ok hfind] at hnone
      cases hnone
    | error refusal => rw [step_choose_error hfind]
  | look =>
    rw [step_look, entered_eq]
    cases game.peek <;> rfl
  | choices =>
    rw [step_choices, entered_eq]
    cases game.peek <;> rfl
  | complete objective =>
    obtain ⟨objectives, hstate⟩ := State.exists_complete_eq game.state objective
    show (game.state.complete objective).totalChoices = _
    rw [hstate]
  | load snapshot => cases hmove
  -- The other moves ask without changing anything.
  | _ => rfl

/-- A choice that is taken is told first. -/
theorem outcomes_run_of_taken (htaken : game.step clock move = (.outcome reply, next))
    (moves : List (Readings × Move)) :
    outcomes (game.run ((clock, move) :: moves)).1 = reply :: outcomes (next.run moves).1 := by
  rw [run_cons, htaken]
  rfl

/-- A move that takes no choice tells of none. -/
theorem outcomes_run_of_none (hnone : (game.step clock move).1.outcome? = none)
    (moves : List (Readings × Move)) :
    outcomes (game.run ((clock, move) :: moves)).1 =
      outcomes ((game.step clock move).2.run moves).1 :=
  List.filterMap_cons_none hnone

/-- A play that begins with a choice takes one more than what follows. -/
theorem taken_of_taken (htaken : game.step clock move = (.outcome reply, next))
    (moves : List (Readings × Move)) :
    game.taken ((clock, move) :: moves) = next.taken moves + 1 :=
  congrArg List.length (outcomes_run_of_taken htaken moves)

/-- A play that begins with a move that takes no choice takes as many as what follows. -/
theorem taken_of_none (hnone : (game.step clock move).1.outcome? = none)
    (moves : List (Readings × Move)) :
    game.taken ((clock, move) :: moves) = (game.step clock move).2.taken moves :=
  congrArg List.length (outcomes_run_of_none hnone moves)

/-- A play counts the choices that it takes, on the circle of words. -/
theorem totalChoices_played (game : Game) (moves : List (Readings × Move))
    (hmoves : ∀ m ∈ moves, m.2.isLoad = false) :
    (game.played moves).state.totalChoices =
      game.state.totalChoices + UInt32.ofNat (game.taken moves) := by
  induction moves generalizing game with
  | nil => exact (UInt32.add_zero _).symm
  | cons m moves ih =>
    obtain ⟨clock, move⟩ := m
    obtain ⟨hmove, hrest⟩ := List.forall_mem_cons.1 hmoves
    rw [played_cons, ih _ hrest]
    -- A move that takes a choice counts one, any other counts none.
    rcases step_outcome? game clock move with ⟨scene, choice, htaken⟩ | hnone
    · rw [taken_of_taken htaken, htaken, totalChoices_after, UInt32.ofNat_add, UInt32.add_assoc,
        UInt32.add_comm (UInt32.ofNat _)]
      rfl
    · rw [taken_of_none hnone, totalChoices_step_of_none hmove hnone]

/-- Where there is room for them all, a play adds the choices that it takes. -/
theorem HasRoom.toNat_totalChoices {moves : List (Readings × Move)} (h : game.HasRoom moves)
    (hmoves : ∀ m ∈ moves, m.2.isLoad = false) :
    (game.played moves).state.totalChoices.toNat =
      game.state.totalChoices.toNat + game.taken moves := by
  have htaken : game.taken moves < UInt32.size := Nat.lt_of_le_of_lt (Nat.le_add_left _ _) h
  rw [totalChoices_played game moves hmoves, UInt32.toNat_add, UInt32.toNat_ofNat_of_lt' htaken]
  exact Nat.mod_eq_of_lt h

/-- Where there is room for a play that begins with a choice, there is room for that choice and for
what follows it. -/
theorem HasRoom.of_taken {scene : Scene} {choice : Choice} {now : Instant}
    {moves : List (Readings × Move)}
    (htaken : game.step clock move = (.outcome reply, game.after scene choice now))
    (h : game.HasRoom ((clock, move) :: moves)) :
    game.state.totalChoices.toNat + 1 < UInt32.size ∧
      (game.after scene choice now).HasRoom moves := by
  unfold HasRoom at h ⊢
  rw [taken_of_taken htaken] at h
  have hone : game.state.totalChoices.toNat + 1 < UInt32.size := by omega
  refine ⟨hone, ?_⟩
  rw [toNat_totalChoices_after hone]
  omega

/-- A move that takes no choice leaves the room for what follows it. -/
theorem HasRoom.of_none {moves : List (Readings × Move)} (hmove : move.isLoad = false)
    (hnone : (game.step clock move).1.outcome? = none)
    (h : game.HasRoom ((clock, move) :: moves)) : (game.step clock move).2.HasRoom moves := by
  unfold HasRoom at h ⊢
  rwa [totalChoices_step_of_none hmove hnone, ← taken_of_none hnone]

end Game

end Gamebook
