import Gamebook.Proofs.Play.Completion
import Gamebook.Proofs.Play.SceneIndex

/-!
# Scores in time

A choice that is taken brings a score exactly if it leads to an ending or leaves the story complete,
and the score is the one that the game has right after it. A story that is complete stays so, and a
limit on choices comes closer with each choice, so from some choice on all of them bring a score.

## Key results

- `isSome_score_iff`: which choices bring a score
- `eq_score_of_mem`: the score is that of the game after the choice
- `DueWithin`: how many choices complete a story at the most
- `Grows.dueWithin` / `DueWithin.after`: time is never lost, and a choice gains one
- `DueWithin.isSome_score`: which choices of a play bring a score at the latest
- `score_on_time`: when scores come, and what they are
-/

namespace Gamebook

/-- Whether the scene under an id is an ending. -/
def Activity.EndsAt (activity : Activity) (id : String) : Prop :=
  ∃ scene, activity.scene? id = some scene ∧ scene.isEnding = true

namespace Game

variable {activity : Activity} {rules : Rules} {game next : Game} {now : Instant}

/-! ## One choice -/

/-- A choice leads to an ending if the story has an ending under the id. -/
theorem leadsToEnding_iff (hgame : OnStory activity rules game) (id : String) :
    game.leadsToEnding id = true ↔ activity.EndsAt id := by
  unfold leadsToEnding Activity.EndsAt
  rw [hgame.scene?_eq, Option.any_eq_true]

/-- A choice brings a score if it leads to an ending, or if the story is complete after it. -/
theorem isSome_score_iff (game : Game) (scene : Scene) (choice : Choice) (clock : Readings) :
    (outcome choice (game.after scene choice clock.first) clock.second).score.isSome = true ↔
      game.leadsToEnding choice.nextSceneId = true ∨
      (game.after scene choice clock.first).isComplete = true := by
  let next := game.after scene choice clock.first
  have hending : next.atEnding = game.leadsToEnding choice.nextSceneId := by
    unfold atEnding leadsToEnding
    rw [peek_after]
  rw [← hending, ← Bool.or_eq_true_iff]
  unfold outcome
  cases next.atEnding || next.isComplete <;> simp

/-- A score that a choice brings is the score of the game after it. -/
theorem eq_score_of_mem {choice : Choice} {score : Score}
    (h : score ∈ (outcome choice next now).score) : score = next.score now := by
  unfold outcome at h
  dsimp only at h
  split at h
  · exact (Option.mem_some.1 h).symm
  · cases h

/-! ## Choices that complete a story -/

/-- Whether the story is complete, or a number of further choices completes it. -/
def DueWithin (game : Game) (count : Nat) : Prop :=
  game.activity.objectives.length ≤ game.state.completedObjectives.length ∨
  ∃ limit, game.activity.maxChoices = some limit ∧ 0 < limit ∧
    limit.toNat ≤ game.state.totalChoices.toNat + count

/-- A story is complete if no more choices are needed. -/
theorem isComplete_iff_dueWithin (game : Game) : game.isComplete = true ↔ game.DueWithin 0 := by
  rw [isComplete_iff]
  simp only [UInt32.le_iff_toNat_le]
  rfl

/-- More choices are also enough. -/
theorem DueWithin.mono {count more : Nat} (h : game.DueWithin count) (hle : count ≤ more) :
    game.DueWithin more :=
  h.imp_right fun ⟨limit, hlimit, hpos, hreached⟩ =>
    ⟨limit, hlimit, hpos, Nat.le_trans hreached (Nat.add_le_add_left hle _)⟩

/-- A story that is due stays so while progress only grows and no choices are lost count of. -/
theorem Grows.dueWithin {later : Game} {count : Nat} (hgrows : game.Grows later)
    (hchoices : game.state.totalChoices.toNat ≤ later.state.totalChoices.toNat)
    (h : game.DueWithin count) : later.DueWithin count := by
  unfold DueWithin at h ⊢
  rw [hgrows.activity_eq]
  rcases h with hobjectives | ⟨limit, hlimit, hpos, hreached⟩
  · exact .inl (Nat.le_trans hobjectives hgrows.completed.length_le)
  · exact .inr ⟨limit, hlimit, hpos,
      Nat.le_trans hreached (Nat.add_le_add_right hchoices _)⟩

/-- A choice that is counted brings a story one choice closer to where it is complete. -/
theorem DueWithin.after {count : Nat} (h : game.DueWithin (count + 1))
    (hroom : game.state.totalChoices.toNat + 1 < UInt32.size) (scene : Scene) (choice : Choice)
    (now : Instant) : (game.after scene choice now).DueWithin count := by
  have hgrows : game.Grows (game.after scene choice now) := grows_after game scene choice now
  unfold DueWithin
  rw [hgrows.activity_eq]
  rcases h with hobjectives | ⟨limit, hlimit, hpos, hreached⟩
  · exact .inl (Nat.le_trans hobjectives hgrows.completed.length_le)
  · -- The choice that the story is now closer by is the one that is counted.
    have hcounted := toNat_totalChoices_after hroom scene choice now
    exact .inr ⟨limit, hlimit, hpos, by omega⟩

/-! ## Plays -/

/-- If one choice more than some number completes the story, then in a play without loading, for
which the count of choices has room, every choice after that number of choices brings a score. -/
theorem DueWithin.isSome_score {count : Nat} (h : game.DueWithin (count + 1))
    (moves : List (Readings × Move)) (hmoves : ∀ m ∈ moves, m.2.isLoad = false)
    (hroom : game.HasRoom moves) :
    ∀ reply ∈ (outcomes (game.run moves).1).drop count, reply.score.isSome = true := by
  -- Over the moves: a choice that is taken brings the story one choice closer, any other move
  -- leaves it where it is.
  induction moves generalizing game count with
  | nil => simp [run, outcomes]
  | cons m moves ih =>
    obtain ⟨clock, move⟩ := m
    obtain ⟨hmove, hrest⟩ := List.forall_mem_cons.1 hmoves
    rcases step_outcome? game clock move with ⟨scene, choice, htaken⟩ | hnone
    · obtain ⟨hone, hroom'⟩ := hroom.of_taken htaken
      have hafter := h.after hone scene choice clock.first
      rw [outcomes_run_of_taken htaken]
      cases count with
      | zero =>
        -- The choice completes the story, and so do all that follow.
        have hcomplete := (isComplete_iff_dueWithin _).2 hafter
        rw [List.drop_zero, List.forall_mem_cons]
        exact ⟨(isSome_score_iff game scene choice clock).2 (.inr hcomplete),
          ih (hafter.mono (Nat.zero_le 1)) hrest hroom'⟩
      | succ count => exact ih hafter hrest hroom'
    · have hcount := totalChoices_step_of_none hmove hnone
      rw [outcomes_run_of_none hnone]
      exact ih ((grows_step game clock hmove).dueWithin (by rw [hcount]) h) hrest
        (hroom.of_none hmove hnone)

/-! ## Scores come in time -/

/-- In every game a choice that is taken brings a score exactly if it leads to an ending of the
story, or if enough objectives are marked or the limit on choices is reached after it. The score is
what the player would be told right after the choice at the same moment: it counts the step, and an
ending that is reached has been entered. Once a story is complete it stays so, whatever moves but
loading are made, and all choices that are taken bring a score. In a fresh game with a limit on
choices the choice that reaches it does, and so does each one after it. All of this is for plays
that the count of choices has room for. -/
theorem score_on_time (activity : Activity) (rules : Rules) (past : Past) :
    let game := past.game activity rules
    let fresh := start activity rules {} past.builtAt
    (∀ clock choiceId reply next, game.choose clock choiceId = (.ok reply, next) →
      ∃ scene choice, game.peek = some scene ∧ scene.choice? choiceId = some choice ∧
        (reply.score.isSome = true ↔
          activity.EndsAt choice.nextSceneId ∨
          activity.objectives.length ≤ next.state.completedObjectives.length ∨
          ∃ limit, activity.maxChoices = some limit ∧ 0 < limit ∧
            limit ≤ next.state.totalChoices) ∧
        (∀ score ∈ reply.score,
          next.step (.still clock.second) .score = (.score score, next) ∧
          score.log = game.log ++ [game.stepOf scene choice clock.first] ∧
          score.visitedScenes = next.state.visited.size.toUInt64 ∧
          (game.state.totalChoices.toNat + 1 < UInt32.size →
            score.totalChoices.toNat = game.state.totalChoices.toNat + 1)) ∧
        (activity.EndsAt choice.nextSceneId →
          next.state.hasVisited choice.nextSceneId = true)) ∧
    (game.isComplete = true → ∀ moves : List (Readings × Move),
      (∀ m ∈ moves, m.2.isLoad = false) → game.HasRoom moves →
        (game.played moves).isComplete = true ∧
        ∀ reply ∈ outcomes (game.run moves).1, reply.score.isSome = true) ∧
    (∀ limit, activity.maxChoices = some limit → 0 < limit → ∀ moves : List (Readings × Move),
      (∀ m ∈ moves, m.2.isLoad = false) → fresh.HasRoom moves →
        ∀ reply ∈ (outcomes (fresh.run moves).1).drop (limit.toNat - 1),
          reply.score.isSome = true) := by
  intro game fresh
  have hgame : OnStory activity rules game := past.onStory_game activity rules
  refine ⟨fun clock choiceId reply next hchoose => ?_, fun hcomplete moves hmoves hroom => ?_,
    fun limit hlimit hpos moves hmoves hroom => ?_⟩
  · obtain ⟨scene, choice, hpeek, hchoice, rfl, rfl⟩ := choose_eq_ok_iff.1 hchoose
    have hactivity : (game.after scene choice clock.first).activity = activity :=
      (grows_after game scene choice clock.first).activity_eq.trans hgame.activity_eq
    refine ⟨scene, choice, hpeek, hchoice, ?_, fun score hscore => ?_, fun hends => ?_⟩
    -- The game after the choice is still of the same story, so both speak of its endings and
    -- limits.
    · rw [isSome_score_iff, leadsToEnding_iff hgame, isComplete_iff, hactivity]
    · obtain rfl := eq_score_of_mem hscore
      exact ⟨rfl, after_log game scene choice clock.first, rfl,
        fun hroom => toNat_totalChoices_after hroom scene choice clock.first⟩
    · rw [hasVisited_after, (leadsToEnding_iff hgame _).2 hends]
      simp
  · rw [isComplete_iff_dueWithin] at hcomplete ⊢
    have hchoices : game.state.totalChoices.toNat ≤
        (game.played moves).state.totalChoices.toNat := by
      rw [hroom.toNat_totalChoices hmoves]
      exact Nat.le_add_right _ _
    exact ⟨(grows_played game moves hmoves).dueWithin hchoices hcomplete,
      (hcomplete.mono (Nat.zero_le 1)).isSome_score moves hmoves hroom⟩
  · have hdue : fresh.DueWithin (limit.toNat - 1 + 1) := .inr ⟨limit, hlimit, hpos, by omega⟩
    exact hdue.isSome_score moves hmoves hroom

/-! ### A short walk -/

/-- A story of three choices at most, with a way home and a way to nowhere. -/
def walkStory : Activity where
  id := "walk"
  title := "Walk"
  startingSceneId := "path"
  maxChoices := some 3
  objectives := ["look"]
  scenes :=
    [{ id := "path", title := "Path", description := ""
       choices :=
        [{ id := "stroll", text := "Stroll", nextSceneId := "path" },
         { id := "return", text := "Return", nextSceneId := "home" },
         { id := "stray", text := "Stray", nextSceneId := "nowhere" }] },
     { id := "home", title := "Home", description := "", isEnding := true
       choices := [{ id := "leave", text := "Leave", nextSceneId := "path" }] }]

/-- A walk that goes on after the limit is reached, with a refused choice on the way. -/
def walkMoves : List (Readings × Move) :=
  [(.epoch, .choose "stroll"), (.epoch, .choose "leave"), (.epoch, .look),
    (.epoch, .choose "stroll"), (.epoch, .choose "stroll"), (.epoch, .choose "stray")]

/-- Going home brings a score, and so does every choice once the objective is marked. The limit is
reached with the third choice. -/
theorem score_on_time_walkStory :
    let fresh := start walkStory {} {} .epoch
    let marked := ({ builtAt := .epoch, moves := [(.epoch, .complete "look")] } : Past).game
      walkStory {}
    (∃ reply next score, fresh.choose .epoch "return" = (.ok reply, next) ∧
      reply.score = some score ∧ score.log.length = 1 ∧ next.state.hasVisited "home" = true) ∧
    (∃ reply next, fresh.choose .epoch "stroll" = (.ok reply, next) ∧ reply.score = none) ∧
    marked.HasRoom walkMoves ∧ (outcomes (marked.run walkMoves).1).length = 4 ∧
    (∀ reply ∈ outcomes (marked.run walkMoves).1, reply.score.isSome = true) ∧
    fresh.HasRoom walkMoves ∧ (outcomes (fresh.run walkMoves).1).length = 4 ∧
    (∀ reply ∈ (outcomes (fresh.run walkMoves).1).drop 2, reply.score.isSome = true) := by
  intro fresh marked
  have hmoves : ∀ m ∈ walkMoves, m.2.isLoad = false := by decide
  have hcomplete : marked.isComplete = true := by decide
  obtain ⟨htaken, -, hlimit⟩ := score_on_time walkStory {} { builtAt := .epoch }
  obtain ⟨-, hlater, -⟩ :=
    score_on_time walkStory {} { builtAt := .epoch, moves := [(.epoch, .complete "look")] }
  have hpath : fresh.peek = some walkStory.scenes[0] := by decide +kernel
  have hgo : walkStory.scenes[0].choice? "return" = some walkStory.scenes[0].choices[1] := by
    decide +kernel
  have hhome : walkStory.EndsAt "home" := ⟨walkStory.scenes[1], by decide, rfl⟩
  obtain ⟨reply, next, hreturn⟩ : ∃ reply next, fresh.choose .epoch "return" = (.ok reply, next) :=
    ⟨_, _, rfl⟩
  obtain ⟨scene, choice, hscene, hchoice, hscored, hscore, hvisited⟩ :=
    htaken .epoch "return" reply next hreturn
  obtain rfl : walkStory.scenes[0] = scene := Option.some.inj (hpath.symm.trans hscene)
  obtain rfl : walkStory.scenes[0].choices[1] = choice := Option.some.inj (hgo.symm.trans hchoice)
  obtain ⟨score, hreply⟩ := Option.isSome_iff_exists.1 (hscored.2 (.inl hhome))
  have hroom : fresh.HasRoom walkMoves := by decide +kernel
  have hroom' : marked.HasRoom walkMoves := by decide +kernel
  refine ⟨⟨reply, next, score, hreturn, hreply, ?_, hvisited hhome⟩, ⟨_, _, rfl, rfl⟩, hroom', ?_,
    (hlater hcomplete walkMoves hmoves hroom').2, hroom, ?_,
    hlimit 3 rfl (by decide) walkMoves hmoves hroom⟩
  · rw [(hscore score hreply).2.1]
    rfl
  · decide
  · decide

end Game

end Gamebook
