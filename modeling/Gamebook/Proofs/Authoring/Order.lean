import Gamebook.Proofs.Authoring.Gates

/-!
# The order of lessons

Each scene of a generated story is reached from the one before it, whatever choices are taken: no
choice, on offer or hidden, leads past a scene of the row, and only the ways to the success ending
mark the challenge as completed. The log therefore goes through the scenes in their order.

## Key results

- `flag?_applyAll`: which choices mark the challenge as completed
- `Ordered`: each scene is reached from the one before, which the log shows
- `ordered_step`: every move keeps to the order
- `lessons_in_order`: no play comes to the success ending without all that stands before it
-/

namespace Gamebook

/-- Entering the scene that the player is in reaches nothing new. -/
theorem State.reached_visit {s : State} {scene id : String} (hscene : scene = s.currentSceneId) :
    (s.visit scene).Reached id ↔ s.Reached id := by
  unfold State.Reached
  rw [State.hasVisited_visit, Bool.or_eq_true, decide_eq_true_eq]
  show s.currentSceneId = id ∨ id = scene ∨ s.hasVisited id = true ↔ _
  grind

namespace Course

open Plan (completedFlag markExplored)

variable {p : Course} {place : Nat} {scene : Scene} {game : Game} {rules : Rules}

/-! ## Completing the challenge -/

/-- Whether a choice has no part in marking the challenge as completed. -/
def LeavesUncompleted (choice : Choice) : Prop :=
  ∀ s : State, (s.applyAll choice.actions).flag? completedFlag = s.flag? completedFlag

/-- Setting another flag leaves the challenge uncompleted. -/
private theorem flag?_setFlag (s : State) {flag : String} (value : FlagValue)
    (hflag : completedFlag ≠ flag) :
    (s.apply (.setFlag flag value)).flag? completedFlag = s.flag? completedFlag := by
  show (s.flags.insert flag value).get? completedFlag = s.flags.get? completedFlag
  rw [Keyed.get?_insert, if_neg hflag]

/-- The flags of lessons begin with another letter. -/
private theorem leavesUncompleted_markExplored (position : Nat) :
    ∀ s : State, (s.apply (markExplored position).effect).flag? completedFlag =
      s.flag? completedFlag := by
  refine fun s => flag?_setFlag s _ fun h => ?_
  have hfirst := congrArg (·.toList.head?) h
  simp [completedFlag, String.toList_append] at hfirst

/-- The ways on from a place before the challenge leave it uncompleted, if the ungated ones do. -/
private theorem leavesUncompleted_of_mem_offers (ways : List Choice)
    (hways : ∀ c ∈ ways, LeavesUncompleted c) {choice : Choice}
    (hchoice : choice ∈ p.offers place ways) : LeavesUncompleted choice := by
  unfold offers Plan.gated at hchoice
  split at hchoice
  next =>
    simp only [List.mem_append, List.mem_map, List.mem_cons, List.not_mem_nil, or_false] at hchoice
    obtain ⟨c, hc, rfl⟩ | rfl | rfl := hchoice
    · exact hways c hc
    -- The flag for practice has another name, and leaving marks nothing.
    · exact fun s => flag?_setFlag s _ (by decide)
    · exact fun s => rfl
  next => exact hways choice hchoice

/-- No choice before the challenge completes it. -/
theorem At.leavesUncompleted (h : p.At place scene) (hplace : place ≤ p.lessons)
    {choice : Choice} (hchoice : choice ∈ scene.choices) : LeavesUncompleted choice := by
  cases h with
  | opening =>
    refine leavesUncompleted_of_mem_offers p.openingWays (fun c hc => ?_) hchoice
    simp only [openingWays, List.mem_cons, List.not_mem_nil, or_false] at hc
    obtain rfl | rfl := hc
    · exact fun s => rfl
    · exact fun s => rfl
  | lesson position objective =>
    refine leavesUncompleted_of_mem_offers (p.lessonWays position objective)
      (fun c hc => ?_) hchoice
    simp only [lessonWays, List.mem_cons, List.not_mem_nil, or_false] at hc
    obtain rfl | rfl | rfl := hc
    · exact fun s => rfl
    -- A lesson marks that it was explored, and nothing else.
    · exact leavesUncompleted_markExplored position
    · exact leavesUncompleted_markExplored position
  | challenge => omega
  | success => omega
  | alternative => omega

/-- The challenge is marked as completed by the choices that lead to the success ending, and by no
others. -/
theorem At.flag?_applyAll (h : p.At place scene) {choice : Choice}
    (hchoice : choice ∈ scene.choices) {next : Nat}
    (hnext : choice.nextSceneId = p.stop next) (s : State) :
    (s.applyAll choice.actions).flag? completedFlag =
      if next = p.lessons + 2 then some (.bool true) else s.flag? completedFlag := by
  by_cases hplace : place ≤ p.lessons
  · -- The success ending is not reached from before the challenge.
    obtain ⟨next', hnext', hway⟩ := h.wayOn hchoice
    rw [hnext, stop_inj] at hnext'
    rw [h.leavesUncompleted hplace hchoice s, if_neg]
    cases hway <;> omega
  · cases h with
    | opening => omega
    | lesson => omega
    -- The challenge marks its flag in the ways that solve it, and only there.
    | challenge =>
      simp only [atChallenge, Plan.challengeWith, challengeWays, List.mem_cons, List.not_mem_nil,
        or_false] at hchoice
      obtain rfl | rfl | rfl := hchoice
      · have hsuccess : next = p.lessons + 2 := p.stop_inj.1 hnext.symm
        -- The name of the flag differs from that of each unlocked scene in its first character.
        have hunlocked : completedFlag ≠ Effect.unlockedFlag (p.stop (p.lessons + 2)) := fun h => by
          have hfirst := congrArg (·.toList.head?) h
          simp [completedFlag, Effect.unlockedFlag, String.toList_append] at hfirst
        rw [if_pos hsuccess]
        -- The unlocked scene is marked after the challenge.
        show ((s.flags.insert completedFlag (.bool true)).insert _ (.bool true)).get? _ = _
        rw [Keyed.get?_insert, if_neg hunlocked, Keyed.get?_insert, if_pos rfl]
      · have hsuccess : next = p.lessons + 2 := p.stop_inj.1 hnext.symm
        rw [if_pos hsuccess]
        show (s.flags.insert completedFlag (.bool true)).get? _ = _
        rw [Keyed.get?_insert, if_pos rfl]
      · have halternative : next = p.lessons + 3 := p.stop_inj.1 hnext.symm
        rw [if_neg (by omega)]
        rfl
    | success => exact absurd hchoice List.not_mem_nil
    | alternative => exact absurd hchoice List.not_mem_nil

/-! ## Following the row -/

/-- Whether in a list of ids each place up to the success ending only comes after the one before. -/
def InOrder (p : Course) (ids : List String) : Prop :=
  ∀ place k, place ≤ p.lessons + 1 → ids[k]? = some (p.stop (place + 1)) →
    p.stop place ∈ ids.take k

/-- An id may follow if the place before its own is listed. -/
theorem InOrder.snoc {ids : List String} (h : p.InOrder ids) {id : String}
    (hid : ∀ place, place ≤ p.lessons + 1 → id = p.stop (place + 1) →
      p.stop place ∈ ids) : p.InOrder (ids ++ [id]) := by
  intro place k hplace hk
  have hlt : k < (ids ++ [id]).length := (List.getElem?_eq_some_iff.1 hk).1
  rw [List.length_append, List.length_singleton] at hlt
  -- Either the place is the new one at the end, or it was listed before.
  by_cases hlast : k = ids.length
  · subst hlast
    rw [List.getElem?_concat_length, Option.some.injEq] at hk
    rw [List.take_left]
    exact hid place hplace hk
  · rw [List.getElem?_append_left (by omega)] at hk
    rw [List.take_append_of_le_length (by omega)]
    exact h place k hplace hk

/-- What the order of the row demands of a game: the player is in a scene of the story; each scene
up to the success ending is reached from the one before, and is logged after it; and the challenge
is marked as completed by the success ending and by nothing else. -/
structure Ordered (p : Course) (game : Game) : Prop where
  placed : ∃ place, place < p.lessons + 4 ∧ game.state.currentSceneId = p.stop place
  entered : ∀ step ∈ game.log, game.state.hasVisited step.sceneId = true
  followed : ∀ place ≤ p.lessons + 1, game.state.Reached (p.stop (place + 1)) →
    p.stop place ∈ game.log.map (·.sceneId)
  inOrder : p.InOrder (game.log.map (·.sceneId))
  solved : game.state.Reached (p.stop (p.lessons + 2)) →
    game.state.hasVisited (p.stop (p.lessons + 2)) = true ∧
      game.state.flag? completedFlag = some (.bool true)
  unsolved : ¬ game.state.Reached (p.stop (p.lessons + 2)) →
    game.state.flag? completedFlag = none

/-- At the start only the opening has been reached, and nothing is logged. -/
theorem ordered_start (p : Course) {activity : Activity}
    (hactivity : activity.startingSceneId = p.stop 0) (rules : Rules) (now : Instant) :
    p.Ordered (Game.start activity rules {} now) := by
  have hreached : ∀ place, (Game.start activity rules {} now).state.Reached (p.stop place) →
      place = 0 := by
    intro place hr
    rcases hr with hr | hr
    · have hstop : p.stop 0 = p.stop place := hactivity.symm.trans hr
      rw [stop_inj] at hstop
      exact hstop.symm
    · exact absurd hr Bool.false_ne_true
  -- Neither a later place nor the success ending is reached at the start.
  refine ⟨⟨0, by omega, hactivity⟩, fun _ h => absurd h List.not_mem_nil, fun place _ hr => ?_,
    fun _ _ _ h => absurd h (by simp [Game.start]), fun hr => ?_, fun _ => rfl⟩
  · have := hreached _ hr
    omega
  · have := hreached _ hr
    omega

/-- What reaches nothing new, leaves no scene and sets no flag keeps the order. -/
theorem Ordered.mono {other : Game} (h : p.Ordered game) (hlog : other.log = game.log)
    (hplaced : other.state.currentSceneId = game.state.currentSceneId)
    (hreached : ∀ id, other.state.Reached id ↔ game.state.Reached id)
    (hvisited : ∀ id, game.state.hasVisited id = true → other.state.hasVisited id = true)
    (hflags : other.state.flags = game.state.flags) : p.Ordered other := by
  -- Only the log, the flags and what was visited or reached play a part.
  have hflag : other.state.flag? completedFlag = game.state.flag? completedFlag := by
    unfold State.flag?
    rw [hflags]
  refine ⟨?_, fun step hstep => ?_, fun place hplace hr => ?_, ?_, fun hr => ?_, fun hr => ?_⟩
  · rw [hplaced]
    exact h.placed
  · rw [hlog] at hstep
    exact hvisited _ (h.entered step hstep)
  · rw [hlog]
    exact h.followed place hplace ((hreached _).1 hr)
  · rw [hlog]
    exact h.inOrder
  · obtain ⟨hdone, hcompleted⟩ := h.solved ((hreached _).1 hr)
    exact ⟨hvisited _ hdone, hflag.trans hcompleted⟩
  · exact hflag.trans (h.unsolved fun hr' => hr ((hreached _).2 hr'))

/-- A choice leads along the row, whether it is on offer or not. -/
theorem Ordered.take (h : p.Ordered game) (hat : p.At place scene)
    (hcurrent : game.state.currentSceneId = p.stop place)
    (hending : game.leadsToEnding (p.stop (p.lessons + 2)) = true) {choice : Choice}
    (hchoice : choice ∈ scene.choices) (now : Instant) :
    p.Ordered (game.after scene choice now) := by
  obtain ⟨next, hnext, hway, hreached⟩ := hat.exists_next hcurrent hchoice now
  have hmoved := (Game.currentSceneId_after game scene choice now).trans hnext
  have hscene : scene.id = game.state.currentSceneId := hat.id_eq.trans hcurrent.symm
  -- The choice is logged for the scene that it is offered in.
  have hlog : (game.after scene choice now).log.map (·.sceneId) =
      game.log.map (·.sceneId) ++ [p.stop place] := by
    rw [Game.after_log, List.map_append, ← hat.id_eq]
    rfl
  have hflag : (game.after scene choice now).state.flag? completedFlag =
      if next = p.lessons + 2 then some (.bool true)
      else game.state.flag? completedFlag := by
    have h' := hat.flag?_applyAll hchoice hnext (game.state.visit scene.id)
    unfold State.flag? at h' ⊢
    rw [Game.flags_after]
    exact h'
  refine ⟨⟨next, hway.next_lt, hmoved⟩, fun step hstep => ?_, fun m hm hr => ?_, ?_, fun hr => ?_,
    fun hr => ?_⟩
  · -- Taking a choice enters the scene that it is logged for.
    rw [Game.after_log, List.mem_append, List.mem_singleton] at hstep
    rcases hstep with hstep | rfl
    · exact Game.hasVisited_after_of_reached hscene choice now (.inr (h.entered step hstep))
    · exact Game.hasVisited_after_of_reached hscene choice now (.inl hscene.symm)
  · -- A place is reached now from the one before, which is logged now, or from itself.
    rw [hlog, List.mem_append, List.mem_singleton, stop_inj]
    rcases hreached _ hr with hnew | hr
    · cases hway with
      | onward => exact .inr (by omega)
      | practise => exact .inl (h.followed m hm (.inl (by rw [hcurrent, hnew])))
      | leave => omega
      | solve => exact .inr (by omega)
      | retreat => omega
    · exact .inl (h.followed m hm hr)
  · rw [hlog]
    exact h.inOrder.snoc fun m hm hstop => h.followed m hm (.inl (hcurrent.trans hstop))
  · rcases hreached _ hr with hnew | hr
    · -- The success ending is entered as soon as it is reached.
      rw [hnew] at hending ⊢
      rw [hflag, if_pos hnew.symm, Game.hasVisited_after, hnext, hending]
      simp
    · rw [hflag, (h.solved hr).2, ite_self]
      exact ⟨Game.hasVisited_after_of_reached hscene choice now hr, rfl⟩
  · -- Before the success ending is reached, no choice marks the challenge.
    have hnew : next ≠ p.lessons + 2 := fun hnew => hr (.inl (hnew ▸ hmoved))
    rw [hflag, if_neg hnew]
    exact h.unsolved fun hr' =>
      hr (.inr (Game.hasVisited_after_of_reached hscene choice now hr'))

/-- All that stands before the success ending has been entered when that is reached. -/
theorem Ordered.visited_of_success (h : p.Ordered game)
    (hr : game.state.Reached (p.stop (p.lessons + 2))) (place : Nat)
    (hplace : place ≤ p.lessons + 1) :
    game.state.hasVisited (p.stop place) = true := by
  -- What was reached was reached from the place before, which its choice has entered.
  have hentered : ∀ m, m ≤ p.lessons + 1 →
      game.state.Reached (p.stop (m + 1)) →
      game.state.hasVisited (p.stop m) = true := by
    intro m hm hnext
    obtain ⟨step, hstep, hid⟩ := List.mem_map.1 (h.followed m hm hnext)
    exact hid ▸ h.entered step hstep
  -- Back from the challenge, which stands at distance zero.
  obtain ⟨back, hback⟩ : ∃ back, place + back = p.lessons + 1 :=
    ⟨p.lessons + 1 - place, by omega⟩
  induction back generalizing place with
  | zero =>
    obtain rfl : place = p.lessons + 1 := hback
    exact hentered _ hplace hr
  | succ back ih => exact hentered place hplace (.inr (ih (place + 1) (by omega) (by omega)))

end Course

namespace Game

variable {rules : Rules} {game : Game}

variable {p : Course} {story : Activity}

/-- The success ending is an ending in the story. -/
theorem leadsToEnding_success (hstory : p.Tells story) (hgame : game.OnStory story rules) :
    game.leadsToEnding (p.stop (p.lessons + 2)) = true := by
  have hplace : p.lessons + 2 < p.lessons + 4 := by omega
  obtain ⟨scene, hscene, hat⟩ := scene?_stop hstory hgame hplace
  unfold leadsToEnding
  rw [hscene, Option.any_some, hat.isEnding_eq]
  exact decide_eq_true (Nat.le_refl _)

/-- Every move but loading keeps to the order of the story. -/
theorem ordered_step (hstory : p.Tells story) (clock : Readings) (move : Move)
    (hmove : move.isLoad = false) (hgame : game.OnStory story rules) (h : p.Ordered game) :
    p.Ordered (game.step clock move).2 := by
  have hchange := change_step game clock move
  generalize (game.step clock move).2 = next at hchange ⊢
  cases hchange with
  | stay => exact h
  -- Entering again a scene that is reached reaches no other.
  | enter _ hpeek =>
    have hscene := hgame.id_of_peek hpeek
    refine h.mono rfl rfl (fun id => State.reached_visit hscene) (fun id hid => ?_) rfl
    rw [State.hasVisited_visit, hid, Bool.or_true]
  | complete objective =>
    obtain ⟨objectives, hstate⟩ := State.exists_complete_eq game.state objective
    unfold Game.complete
    rw [hstate]
    exact h.mono rfl rfl (fun _ => Iff.rfl) (fun _ hid => hid) rfl
  | load snapshot => cases hmove
  | take hpeek hchoice =>
    obtain ⟨place, hplace, hcurrent⟩ := h.placed
    obtain ⟨there, hthere, hat⟩ := peek_stop hstory hgame hplace hcurrent
    obtain rfl := Option.some.inj (hthere.symm.trans hpeek)
    exact h.take hat hcurrent (leadsToEnding_success hstory hgame)
      (List.mem_of_find?_eq_some hchoice) _

/-- No play without loading leaves the order. -/
theorem ordered_played (hstory : p.Tells story) (hfirst : story.startingSceneId = p.stop 0)
    (rules : Rules) (now : Instant) (moves : List (Readings × Move))
    (hmoves : ∀ m ∈ moves, m.2.isLoad = false) :
    p.Ordered ((start story rules {} now).played moves) :=
  unloaded_induction (Course.Ordered p)
    (fun _ clock move hmove hgame h => ordered_step hstory clock move hmove hgame h) {} now moves
    hmoves (p.ordered_start hfirst rules now)

/-- In a play of a generated story that takes any choices at all, hidden ones included: when the
success ending has been entered, so have the opening, every lesson and the challenge, and the
challenge is marked as completed; it is marked only then; and a lesson is logged only after the
lesson before it. -/
theorem lessons_in_order {g next : Generator} {id title description : String} {brief : Brief}
    {story : Activity} (hstory : g.generate id title description brief = some (story, next))
    (rules : Rules) (now : Instant) (moves : List (Readings × Move))
    (hmoves : ∀ m ∈ moves, m.2.isLoad = false) :
    let l := (g.course title brief).layout
    let game := (start story rules {} now).played moves
    (game.state.hasVisited l.success = true →
      game.state.hasVisited l.opening = true ∧
      (∀ i < brief.objectives.length, game.state.hasVisited (l.lesson i) = true) ∧
      game.state.hasVisited l.challenge = true ∧
      game.state.flag? "challenge_completed" = some (.bool true)) ∧
    (∀ value, game.state.flag? "challenge_completed" = some value →
      game.state.hasVisited l.success = true) ∧
    ∀ (i k : Nat) (step : Step), i + 1 < brief.objectives.length → game.log[k]? = some step →
      step.sceneId = l.lesson (i + 1) →
      ∃ j < k, ∃ earlier : Step, game.log[j]? = some earlier ∧ earlier.sceneId = l.lesson i := by
  intro l game
  have h : (g.course title brief).Ordered game :=
    ordered_played (Generator.tells_of_generate hstory)
      (Generator.startingSceneId_of_generate hstory) rules now moves hmoves
  -- The layout names the lessons by their positions, the course by their places.
  have hlesson : ∀ i < brief.objectives.length,
      l.lesson i = (g.course title brief).stop (i + 1) := fun i hi => Course.lesson_eq _ hi
  refine ⟨fun hsuccess => ?_, fun value hvalue => ?_, fun i k step hi hk hid => ?_⟩
  · have hvisited := h.visited_of_success (.inr hsuccess)
    exact ⟨hvisited 0 (Nat.zero_le _),
      fun i hi => hlesson i hi ▸ hvisited (i + 1) (Nat.succ_le_succ (Nat.le_of_lt hi)),
      hvisited _ (Nat.le_refl _), (h.solved (.inr hsuccess)).2⟩
  · -- If the ending has not been entered, it has not been reached, and nothing was marked.
    by_contra hnot
    have hr : ¬ game.state.Reached l.success := fun hr => hnot (h.solved hr).1
    have hnone : game.state.flag? Plan.completedFlag = none := h.unsolved hr
    rw [Plan.completedFlag, hvalue] at hnone
    cases hnone
  · have hlisted : (game.log.map (·.sceneId))[k]? =
        some ((g.course title brief).stop (i + 1 + 1)) := by
      rw [List.getElem?_map, hk, Option.map_some, hid, hlesson (i + 1) hi]
    have hplace : i + 1 ≤ brief.objectives.length + 1 := by omega
    have hbefore := h.inOrder (i + 1) k hplace hlisted
    -- The lesson before is listed at an earlier place.
    obtain ⟨j, hj⟩ := List.mem_iff_getElem?.1 hbefore
    rw [List.getElem?_take, List.getElem?_map] at hj
    split at hj
    next hlt =>
      obtain ⟨earlier, hearlier, hid'⟩ := Option.map_eq_some_iff.1 hj
      exact ⟨j, hlt, earlier, hearlier, hid'.trans (hlesson i (Nat.lt_of_succ_lt hi)).symm⟩
    next => cases hj

/-! ### A hasty player -/

/-- A play that takes hidden choices: the way through the closed gate, and the hint that the mentor
would not give. Some choices are refused on the way. -/
def hastyMoves : List (Readings × Move) :=
  [(.epoch, .look), (.epoch, .choose "choice_12"), (.epoch, .choose "choice_21"),
    (.epoch, .choose "choice_13"), (.epoch, .choose "choice_19"), (.epoch, .choose "choice_16"),
    (.epoch, .choices), (.epoch, .choose "choice_22"), (.epoch, .choose "choice_22")]

/-- The hasty player leaves the gateway with too few points, and still skips no lesson. -/
theorem lessons_in_order_hastyMoves :
    let l := (usedGenerator.course "Light" opticsBrief).layout
    let game := (start opticsStory {} {} .epoch).played (hastyMoves.take 5)
    let final := (start opticsStory {} {} .epoch).played hastyMoves
    (∃ next, usedGenerator.generate "optics" "Light" "" opticsBrief = some (opticsStory, next)) ∧
    (∀ m ∈ hastyMoves, m.2.isLoad = false) ∧
    game.state.currentSceneId = l.lesson 1 ∧
    game.state.totalPoints < usedGenerator.recipe.challengeThreshold ∧
    final.state.hasVisited l.success = true ∧
    (∀ i < 2, final.state.hasVisited (l.lesson i) = true) ∧
    final.state.flag? "challenge_completed" = some (.bool true) ∧
    final.log.map (·.sceneId) = [l.opening, l.lesson 0, l.lesson 1, l.lesson 1, l.challenge] ∧
    ∃ j < 2, ∃ earlier : Step, final.log[j]? = some earlier ∧ earlier.sceneId = l.lesson 0 := by
  intro l game final
  have hmoves : ∀ m ∈ hastyMoves, m.2.isLoad = false := by decide
  have hlog : final.log.map (·.sceneId) =
      [l.opening, l.lesson 0, l.lesson 1, l.lesson 1, l.challenge] := by decide +kernel
  have hsuccess : final.state.hasVisited l.success = true := by decide +kernel
  obtain ⟨next, hstory⟩ := generate_opticsBrief
  obtain ⟨hall, -, horder⟩ := lessons_in_order hstory {} .epoch hastyMoves hmoves
  obtain ⟨-, hlessons, -, hcompleted⟩ := hall hsuccess
  have hthird : (final.log[2]?).map (·.sceneId) = some (l.lesson 1) := by
    rw [← List.getElem?_map, hlog]
    rfl
  -- The step at the third place of the log is the second lesson.
  obtain ⟨step, hstep, hid⟩ := Option.map_eq_some_iff.1 hthird
  exact ⟨generate_opticsBrief, hmoves, by decide +kernel, by decide +kernel, hsuccess, hlessons,
    hcompleted, hlog, horder 0 2 step (by decide) hstep hid⟩

end Game

end Gamebook
