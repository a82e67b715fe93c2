import Gamebook.Proofs.Play.Growth
import Mathlib

/-!
# When a story is complete

A story is complete when enough objectives are marked, or when the limit on choices is reached. The
objectives are counted, and not compared with those that the story declares: an objective that is
marked but not declared stands in for one that is open, and one that is declared twice is not made
up for by marking it. Where no objective is declared twice, marking them all completes the story;
and where only declared objectives are marked, nothing less does.

## Key results

- `isComplete_iff`: the rule in numbers
- `objectivesDone_iff_card`: what the count amounts to, objective by objective
- `tidy_played`: a play that marks only declared objectives leaves no others marked
- `isComplete_marked`: when the count says that all declared objectives are marked
- `isComplete_stray_mark`: when it does not
-/

namespace Gamebook

/-! ## Lists of objectives -/

/-- How many names of a list repeat an earlier one. -/
def surplus (names : List String) : Nat := names.length - names.toFinset.card

/-- Names are different ones and repetitions. -/
theorem card_add_surplus (names : List String) :
    names.toFinset.card + surplus names = names.length :=
  Nat.add_sub_of_le names.toFinset_card_le

/-- Without repetitions there is no surplus. -/
theorem surplus_eq_zero {names : List String} (h : names.Nodup) : surplus names = 0 := by
  unfold surplus
  rw [List.toFinset_card_of_nodup h, Nat.sub_self]

/-- No name is missing from a list exactly if all of them are in it. -/
private theorem card_sdiff_eq_zero_iff (names list : List String) :
    (names.toFinset \ list.toFinset).card = 0 ↔ ∀ name ∈ names, name ∈ list := by
  rw [Finset.card_eq_zero, Finset.sdiff_eq_empty_iff_subset]
  simp [Finset.subset_iff]

/-- Whether the objectives in a list belong to a story, and none is listed twice. -/
structure Activity.Tidy (activity : Activity) (marked : List String) : Prop where
  nodup : marked.Nodup
  declared : ∀ objective ∈ marked, objective ∈ activity.objectives

instance decidableTidy (activity : Activity) (marked : List String) :
    Decidable (activity.Tidy marked) :=
  decidable_of_iff (marked.Nodup ∧ ∀ objective ∈ marked, objective ∈ activity.objectives)
    ⟨fun h => ⟨h.1, h.2⟩, fun h => ⟨h.nodup, h.declared⟩⟩

/-- Whether a move marks only objectives of a story, and brings in none but such. -/
def Move.MarksTidily (activity : Activity) : Move → Prop
  | .complete objective => objective ∈ activity.objectives
  | .load snapshot => activity.Tidy snapshot.completedObjectives
  | _ => True

instance decidableMarksTidily (activity : Activity) :
    (move : Move) → Decidable (move.MarksTidily activity)
  | .complete objective => inferInstanceAs (Decidable (objective ∈ activity.objectives))
  | .load snapshot => decidableTidy activity snapshot.completedObjectives
  | .look | .peek | .choices | .peekChoices | .holds _ | .choose _ | .isComplete | .score
  | .save => isTrue trivial

/-- The objectives that are marked when a game is built. -/
def Past.marked (past : Past) : List String :=
  match past.snapshot with
  | some snapshot => snapshot.completedObjectives
  | none => past.initial.completedObjectives

/-- Marking an objective of the story leaves the list tidy. -/
theorem State.tidy_complete {activity : Activity} {s : State} {objective : String}
    (h : activity.Tidy s.completedObjectives) (hobjective : objective ∈ activity.objectives) :
    activity.Tidy (s.complete objective).completedObjectives := by
  unfold complete
  split
  next => exact h
  next hopen =>
    -- An objective is marked only if it was open, so none is marked twice.
    have hfresh : objective ∉ s.completedObjectives := by simpa using hopen
    refine ⟨?_, fun other hother => ?_⟩
    · rw [List.nodup_append]
      exact ⟨h.nodup, List.nodup_singleton _,
        fun a ha b hb hab => hfresh (List.mem_singleton.1 hb ▸ hab ▸ ha)⟩
    · rcases List.mem_append.1 hother with hmarked | hlast
      · exact h.declared other hmarked
      · rwa [List.mem_singleton.1 hlast]

namespace Game

variable {activity : Activity} {rules : Rules} {game : Game}

/-! ## The rule in numbers -/

/-- The objectives count as done when as many are marked as declared. -/
theorem objectivesDone_iff (game : Game) :
    game.objectivesDone = true ↔
      game.activity.objectives.length ≤ game.state.completedObjectives.length :=
  decide_eq_true_iff

/-- The limit is reached when there is one and the choices are that many. -/
theorem limitReached_iff (game : Game) :
    game.limitReached = true ↔
      ∃ limit, game.activity.maxChoices = some limit ∧ 0 < limit ∧
        limit ≤ game.state.totalChoices := by
  unfold limitReached
  rw [Option.any_eq_true]
  refine exists_congr fun limit => and_congr_right fun _ => ?_
  rw [Bool.and_eq_true, decide_eq_true_iff, decide_eq_true_iff]

/-- A story is complete when as many objectives are marked as are declared, or when the limit on
choices is reached. -/
theorem isComplete_iff (game : Game) :
    game.isComplete = true ↔
      game.activity.objectives.length ≤ game.state.completedObjectives.length ∨
      ∃ limit, game.activity.maxChoices = some limit ∧ 0 < limit ∧
        limit ≤ game.state.totalChoices := by
  rw [← objectivesDone_iff, ← limitReached_iff]
  exact Bool.or_eq_true_iff

/-! ## What the count amounts to -/

/-- The objectives of the story that are not marked. -/
def openObjectives (game : Game) : Finset String :=
  game.activity.objectives.toFinset \ game.state.completedObjectives.toFinset

/-- The objectives that are marked but are none of the story's. -/
def strayObjectives (game : Game) : Finset String :=
  game.state.completedObjectives.toFinset \ game.activity.objectives.toFinset

/-- Nothing is open just when all that is declared is marked. -/
theorem card_openObjectives_eq_zero_iff (game : Game) :
    game.openObjectives.card = 0 ↔
      ∀ objective ∈ game.activity.objectives, objective ∈ game.state.completedObjectives :=
  card_sdiff_eq_zero_iff _ _

/-- Nothing is stray just when all that is marked is declared. -/
theorem card_strayObjectives_eq_zero_iff (game : Game) :
    game.strayObjectives.card = 0 ↔
      ∀ objective ∈ game.state.completedObjectives, objective ∈ game.activity.objectives :=
  card_sdiff_eq_zero_iff _ _

/-- Enough objectives are marked if those that are open, and the declarations that repeat another,
are made up for by stray marks and by marks that repeat another. -/
theorem objectivesDone_iff_card (game : Game) :
    game.objectivesDone = true ↔
      game.openObjectives.card + surplus game.activity.objectives ≤
        game.strayObjectives.card + surplus game.state.completedObjectives := by
  let declared := game.activity.objectives.toFinset
  let marked := game.state.completedObjectives.toFinset
  have hopen : game.openObjectives.card + (declared ∩ marked).card = declared.card :=
    Finset.card_sdiff_add_card_inter declared marked
  have hstray : game.strayObjectives.card + (declared ∩ marked).card = marked.card := by
    rw [Finset.inter_comm]
    exact Finset.card_sdiff_add_card_inter marked declared
  have hdeclared : declared.card + surplus game.activity.objectives =
      game.activity.objectives.length := card_add_surplus _
  have hmarked : marked.card + surplus game.state.completedObjectives =
      game.state.completedObjectives.length := card_add_surplus _
  -- The objectives that are both declared and marked count on both sides.
  rw [objectivesDone_iff]
  omega

/-! ## Plays that mark what is declared -/

/-- Each move that marks only objectives of the story leaves no others marked. -/
theorem tidy_step (clock : Readings) (move : Move) (hmove : move.MarksTidily activity)
    (h : activity.Tidy game.state.completedObjectives) :
    activity.Tidy (game.step clock move).2.state.completedObjectives := by
  have hchange := change_step game clock move
  generalize (game.step clock move).2 = next at hchange ⊢
  cases hchange with
  | stay => exact h
  | enter => exact h
  -- Only marking an objective and loading change what is marked.
  | complete objective => exact State.tidy_complete h hmove
  | load snapshot => exact hmove
  | take =>
    rw [completedObjectives_after]
    exact h

/-- A play that marks only objectives of the story leaves no others marked. -/
theorem tidy_played (moves : List (Readings × Move))
    (hmoves : ∀ m ∈ moves, m.2.MarksTidily activity) (game : Game)
    (h : activity.Tidy game.state.completedObjectives) :
    activity.Tidy (game.played moves).state.completedObjectives :=
  played_induction (fun game => activity.Tidy game.state.completedObjectives)
    (Move.MarksTidily activity) (fun _ clock move hmove h => tidy_step clock move hmove h)
    moves hmoves game h

/-- A game starts as tidily as its past was kept. -/
theorem tidy_startOrResume (past : Past) (h : activity.Tidy past.marked) :
    activity.Tidy
      (startOrResume activity rules past.initial past.snapshot
        past.builtAt).state.completedObjectives := by
  unfold Past.marked at h
  cases hsnapshot : past.snapshot with
  | some snapshot =>
    rw [hsnapshot] at h
    exact h
  | none =>
    rw [hsnapshot] at h
    exact h

/-- Where no objective is declared twice, a story is complete once all its objectives are marked or
the limit on choices is reached. Where only declared objectives are ever marked, each of them once
in the game's first state, it is complete in no other case. -/
theorem isComplete_marked (activity : Activity) (rules : Rules) (past : Past) :
    let game := past.game activity rules
    let done :=
      (∀ objective ∈ activity.objectives, objective ∈ game.state.completedObjectives) ∨
      ∃ limit, activity.maxChoices = some limit ∧ 0 < limit ∧ limit ≤ game.state.totalChoices
    (activity.objectives.Nodup → done → game.isComplete = true) ∧
    (activity.Tidy past.marked → (∀ m ∈ past.moves, m.2.MarksTidily activity) →
      game.isComplete = true → done) := by
  intro game done
  have hactivity : game.activity = activity := (past.onStory_game activity rules).activity_eq
  have hcount := objectivesDone_iff_card game
  have hopen := card_openObjectives_eq_zero_iff game
  have hstray := card_strayObjectives_eq_zero_iff game
  have hlimit := limitReached_iff game
  have hcomplete : game.isComplete = true ↔
      game.objectivesDone = true ∨ game.limitReached = true := Bool.or_eq_true_iff
  rw [hactivity] at hcount hopen hstray hlimit
  rw [hcomplete]
  refine ⟨fun hobjectives => Or.imp (fun hall => ?_) hlimit.2,
    fun hmarked hmoves => Or.imp (fun henough => ?_) hlimit.1⟩
  · -- Nothing is open, and no declaration repeats another.
    rw [hcount, hopen.2 hall, surplus_eq_zero hobjectives]
    exact Nat.zero_le _
  · -- Nothing is there to make up for an objective that is open.
    have htidy : activity.Tidy game.state.completedObjectives :=
      tidy_played past.moves hmoves _ (tidy_startOrResume past hmarked)
    rw [hcount, hstray.2 htidy.declared, surplus_eq_zero htidy.nodup] at henough
    exact hopen.1 (by omega)

/-! ### Out of a cell -/

/-- A story of a prisoner, with some objectives. -/
def cellStory (objectives : List String) : Activity where
  id := "cell"
  title := "Cell"
  startingSceneId := "cell"
  scenes :=
    [{ id := "cell", title := "Cell", description := ""
       choices := [{ id := "wait", text := "Wait", nextSceneId := "cell" }] }]
  objectives

/-- A game that begins with some objectives marked and goes on to mark others. -/
def markingPast (before after : List String) : Past where
  initial := { completedObjectives := before }
  builtAt := .epoch
  moves := (.epoch, .choose "wait") :: after.map fun objective => (.epoch, .complete objective)

/-- A prisoner who is to dig and to escape is not done before both. -/
theorem isComplete_marked_cellStory :
    let activity := cellStory ["dig", "escape"]
    activity.objectives.Nodup ∧ activity.Tidy (markingPast ["dig"] []).marked ∧
    (∀ m ∈ (markingPast ["dig"] ["dig"]).moves, m.2.MarksTidily activity) ∧
    ((markingPast ["dig"] ["escape"]).game activity {}).isComplete = true ∧
    ((markingPast ["dig"] ["dig"]).game activity {}).isComplete = false := by
  intro activity
  have hnodup : activity.objectives.Nodup := by decide
  have htidy : activity.Tidy (markingPast ["dig"] ["dig"]).marked := by decide
  have hmoves : ∀ m ∈ (markingPast ["dig"] ["dig"]).moves, m.2.MarksTidily activity := by decide
  refine ⟨hnodup, htidy, hmoves, ?_, ?_⟩
  · exact (isComplete_marked activity {} (markingPast ["dig"] ["escape"])).1 hnodup
      (.inl (by decide))
  -- The dig is marked twice, which does not count as two objectives.
  · rw [Bool.eq_false_iff]
    intro hcomplete
    rcases (isComplete_marked activity {} (markingPast ["dig"] ["dig"])).2 htidy hmoves
      hcomplete with hall | ⟨limit, hlimit, -⟩
    · exact absurd hall (by decide)
    · cases hlimit

/-- The rule that a story is complete once all its objectives are marked fails both ways: a prisoner
who sleeps has not escaped, but is done; and one who is to drill twice, and has drilled, is never
done. -/
theorem isComplete_stray_mark :
    let sleeper := (markingPast [] ["sleep"]).game (cellStory ["escape"]) {}
    let driller := (markingPast [] ["drill", "drill"]).game (cellStory ["drill", "drill"]) {}
    (sleeper.isComplete = true ∧ sleeper.activity.maxChoices = none ∧
      ¬ ∀ objective ∈ sleeper.activity.objectives,
        objective ∈ sleeper.state.completedObjectives) ∧
    driller.isComplete = false ∧
      ∀ objective ∈ driller.activity.objectives, objective ∈ driller.state.completedObjectives := by
  decide

end Game

end Gamebook
