import Gamebook.Proofs.Authoring.Row
import Gamebook.Proofs.Play.Offered
import Gamebook.Proofs.Story.Conditions

/-!
# The gates of generated stories

The scenes of a generated story have conditions, which no game enforces: a game only looks at the
conditions of choices. In a generated story the choices close the same ways, so a player who takes
only choices on offer never stands in a scene whose conditions fail.

## Key results

- `Gated`: the challenge is reached with enough points only, and each lesson after the one before
- `gated_after`: every choice on offer keeps to that
- `gates_hold`: in a play of offered choices the conditions of the current scene always hold
-/

namespace Gamebook

/-- Whether a player is or was in a scene. -/
def State.Reached (s : State) (id : String) : Prop :=
  s.currentSceneId = id ∨ s.hasVisited id = true

namespace Game

variable {game : Game} {scene : Scene}

/-- A choice reaches no scene but the one that it leads to. -/
theorem reached_after (hscene : scene.id = game.state.currentSceneId) (choice : Choice)
    (now : Instant) {id : String} (hr : (game.after scene choice now).state.Reached id) :
    id = choice.nextSceneId ∨ game.state.Reached id := by
  unfold State.Reached at hr ⊢
  rw [currentSceneId_after, hasVisited_after] at hr
  simp only [Bool.or_eq_true, Bool.and_eq_true, decide_eq_true_eq] at hr
  rcases hr with hr | ⟨-, hr⟩ | hr | hr
  · exact .inl hr.symm
  · exact .inl hr
  · exact .inr (.inl (hscene.symm.trans hr.symm))
  · exact .inr (.inr hr)

/-- Once a choice is taken, all that was reached has been entered. -/
theorem hasVisited_after_of_reached (hscene : scene.id = game.state.currentSceneId)
    (choice : Choice) (now : Instant) {id : String} (hr : game.state.Reached id) :
    (game.after scene choice now).state.hasVisited id = true := by
  rw [hasVisited_after]
  rcases hr with hr | hr
  · simp [hscene, hr]
  · simp [hr]

end Game

namespace Course

/-- What the gates of a plan demand of a state: the player is in a scene of the story, the challenge
was reached with enough points only, and each lesson after the one before. -/
structure Gated (p : Course) (s : State) : Prop where
  placed : ∃ place, place < p.lessons + 4 ∧ s.currentSceneId = p.stop place
  opened : s.Reached (p.stop (p.lessons + 1)) →
    p.recipe.challengeThreshold.toNat ≤ s.totalPoints.toNat
  followed : ∀ place, 1 ≤ place → place < p.lessons →
    s.Reached (p.stop (place + 1)) → s.hasVisited (p.stop place) = true

variable {p : Course} {s : State}

/-- At the start of a game only the opening has been reached. -/
theorem gated_start (p : Course) {first : String} (hfirst : first = p.stop 0) (now : Instant) :
    p.Gated (State.start {} first now) := by
  -- Before anything is entered only the opening is reached, as the place to begin at.
  have hopening : ∀ place, (State.start {} first now).Reached (p.stop place) → place = 0 := by
    intro place hr
    rcases hr with hr | hr
    · have hstop : p.stop 0 = p.stop place := hfirst.symm.trans hr
      rw [stop_inj] at hstop
      exact hstop.symm
    · exact absurd hr Bool.false_ne_true
  -- Neither the challenge nor a second lesson stands at the first place.
  refine ⟨⟨0, by omega, hfirst⟩, fun h => ?_, fun place _ _ h => ?_⟩
  · have := hopening _ h
    omega
  · have := hopening _ h
    omega

/-- A state that has reached no more and has not fewer points is gated as well. -/
theorem Gated.mono {t : State} (h : p.Gated s)
    (hplaced : t.currentSceneId = s.currentSceneId)
    (hreached : ∀ id, t.Reached id → s.Reached id)
    (hvisited : ∀ id, s.hasVisited id = true → t.hasVisited id = true)
    (hpoints : s.totalPoints.toNat ≤ t.totalPoints.toNat) : p.Gated t := by
  refine ⟨hplaced ▸ h.placed, fun hr => ?_, fun place hlow hhigh hr => ?_⟩
  · exact Nat.le_trans (h.opened (hreached _ hr)) hpoints
  · exact hvisited _ (h.followed place hlow hhigh (hreached _ hr))

/-- The scene that the player is in may be entered. -/
theorem gated_visit (h : p.Gated s) {scene : Scene} (hscene : scene.id = s.currentSceneId) :
    p.Gated (s.visit scene.id) := by
  refine h.mono rfl (fun id hr => ?_) (fun id hid => ?_) (Nat.le_refl _)
  · rcases hr with hr | hr
    · exact .inl hr
    · rw [State.hasVisited_visit, Bool.or_eq_true, decide_eq_true_eq] at hr
      rcases hr with hr | hr
      · exact .inl (hscene.symm.trans hr.symm)
      · exact .inr hr
  · rw [State.hasVisited_visit, hid, Bool.or_true]

/-- Marking an objective moves nobody and takes no points. -/
theorem gated_complete (h : p.Gated s) (objective : String) : p.Gated (s.complete objective) := by
  unfold State.complete
  split
  · exact h
  · exact h.mono rfl (fun _ hr => hr) (fun _ hid => hid) (Nat.le_refl _)

/-- A choice leads to one place on the way on, and reaches no other place. -/
theorem At.exists_next {game : Game} {place : Nat} {scene : Scene} {choice : Choice}
    (hat : p.At place scene) (hcurrent : game.state.currentSceneId = p.stop place)
    (hchoice : choice ∈ scene.choices) (now : Instant) :
    ∃ next, choice.nextSceneId = p.stop next ∧ p.WayOn place choice next ∧
      ∀ m, (game.after scene choice now).state.Reached (p.stop m) →
        m = next ∨ game.state.Reached (p.stop m) := by
  obtain ⟨next, hnext, hway⟩ := hat.wayOn hchoice
  refine ⟨next, hnext, hway, fun m hr => ?_⟩
  have hreached := Game.reached_after (hat.id_eq.trans hcurrent.symm) choice now hr
  rwa [hnext, stop_inj] at hreached

/-- A choice on offer leads through the gates only. -/
theorem gated_after {game : Game} {place : Nat} {scene : Scene} {choice : Choice}
    (h : p.Gated game.state) (hat : p.At place scene)
    (hcurrent : game.state.currentSceneId = p.stop place)
    (hoffer : choice ∈ Game.offeredIn (game.state.visit scene.id) scene) (now : Instant) :
    p.Gated (game.after scene choice now).state := by
  obtain ⟨hchoice, hconditions⟩ := Game.mem_offeredIn.1 hoffer
  obtain ⟨next, hnext, hway, hreached⟩ := hat.exists_next hcurrent hchoice now
  -- Points that opened the gate are still there after the choice.
  have hpoints := Game.totalPoints_le_after game scene choice now
  have hmoved := Game.currentSceneId_after game scene choice now
  have hvisited : ∀ m, game.state.Reached (p.stop m) →
      (game.after scene choice now).state.hasVisited (p.stop m) = true := fun _ hr =>
    Game.hasVisited_after_of_reached (hat.id_eq.trans hcurrent.symm) choice now hr
  refine ⟨⟨next, hway.next_lt, hmoved.trans hnext⟩, fun hr => ?_, fun m hlow hhigh hr => ?_⟩
  · -- The challenge is reached now only through a choice that the gate was open for.
    rcases hreached _ hr with hm | hr
    · have hgate : p.gate ∈ choice.conditions := by
        cases hway with
        | onward _ hgate => exact hgate (by omega)
        -- The other ways do not lead to the challenge.
        | practise hplace => omega
        | leave => omega
        | solve => omega
        | retreat => omega
      have hopen := List.all_eq_true.1 hconditions _ hgate
      have henough := (Condition.holds_scoreAtLeast _ _).1 hopen
      exact Nat.le_trans henough hpoints
    · exact Nat.le_trans (h.opened hr) hpoints
  · -- A lesson is reached now from the one before, or from itself.
    rcases hreached _ hr with hm | hr
    · cases hway with
      | onward =>
        obtain rfl : m = place := by omega
        exact hvisited m (.inl hcurrent)
      | practise hplace =>
        -- Practising leads back to the lesson that it starts from, which was reached before.
        exact hvisited m (.inr (h.followed m hlow hhigh (.inl (by rw [hcurrent, hm]))))
      | leave => omega
      | solve => omega
      | retreat => omega
    · exact hvisited m (.inr (h.followed m hlow hhigh hr))

/-- In a gated state the conditions of the current scene hold. -/
theorem Gated.conditions_hold (h : p.Gated s) {place : Nat} {scene : Scene}
    (hat : p.At place scene) (hcurrent : s.currentSceneId = p.stop place) :
    Condition.allHold scene.conditions s.facts = true := by
  rw [hat.conditions_eq]
  unfold Condition.allHold
  split
  -- Only the challenge and the lessons after the first ask for anything.
  next hplace =>
    have henough := h.opened (.inl (by rw [hcurrent, hplace]))
    rw [List.all_cons, List.all_nil, Bool.and_true]
    exact (Condition.holds_scoreAtLeast _ _).2 henough
  next =>
    split
    next hplace =>
      obtain ⟨n, rfl⟩ : ∃ n, place = n + 1 := ⟨place - 1, by omega⟩
      have hbefore := h.followed n (by omega) (by omega) (.inl hcurrent)
      rw [List.all_cons, List.all_nil, Bool.and_true, Condition.holds_visited]
      exact hbefore
    next => rfl

end Course

namespace Game

variable {rules : Rules} {game : Game}

/-- A game of a story finds the scene at each place of the course that the story tells. -/
theorem scene?_stop {p : Course} {story : Activity} (hstory : p.Tells story)
    (hgame : game.OnStory story rules) {place : Nat} (hplace : place < p.lessons + 4) :
    ∃ scene, game.scene? (p.stop place) = some scene ∧ p.At place scene := by
  rw [hgame.scene?_eq]
  exact hstory place hplace

/-- The player is in the scene at the place that the current id names. -/
theorem peek_stop {p : Course} {story : Activity} (hstory : p.Tells story)
    (hgame : game.OnStory story rules) {place : Nat} (hplace : place < p.lessons + 4)
    (hcurrent : game.state.currentSceneId = p.stop place) :
    ∃ scene, game.peek = some scene ∧ p.At place scene := by
  unfold peek
  rw [hcurrent]
  exact scene?_stop hstory hgame hplace

/-- A play that takes only choices on offer keeps to the gates. -/
theorem gated_played {p : Course} {story : Activity} (hstory : p.Tells story)
    (hfirst : story.startingSceneId = p.stop 0) {now : Instant} {moves : List (Readings × Move)}
    (hmoves : (start story rules {} now).Offered [] moves) :
    p.Gated ((start story rules {} now).played moves).state := by
  refine Offered.induction (Course.Gated p) (fun s scene hscene h => Course.gated_visit h hscene)
    (fun s objective h => Course.gated_complete h objective)
    (fun game now scene offer choice hgame hpeek hoffer hchoice h => ?_) moves _ [] hmoves
    (onStory_startOrResume story rules {} none now)
    (fun snapshot hmem => absurd hmem List.not_mem_nil) (Course.gated_start p hfirst now)
  obtain ⟨place, hplace, hcurrent⟩ := h.placed
  obtain ⟨there, hthere, hat⟩ := peek_stop hstory hgame hplace hcurrent
  obtain rfl : there = scene := Option.some.inj (hthere.symm.trans hpeek)
  -- The ids in a scene differ, so the choice that is found is the one on offer.
  have hfound := hat.choice?_id (mem_offeredIn.1 hoffer).1
  obtain rfl : offer = choice := Option.some.inj (hfound.symm.trans hchoice)
  exact Course.gated_after h hat hcurrent hoffer now

/-- In a play of a generated story that takes only choices on offer, the player is always in a scene
of the story whose conditions hold. The challenge is reached with enough points only, and each
lesson after the one before. -/
theorem gates_hold {g next : Generator} {id title description : String} {brief : Brief}
    {story : Activity} (hstory : g.generate id title description brief = some (story, next))
    (rules : Rules) (now : Instant) (moves : List (Readings × Move))
    (hmoves : (start story rules {} now).Offered [] moves) :
    let l := (g.course title brief).layout
    let game := (start story rules {} now).played moves
    (∃ scene, game.peek = some scene ∧ game.holds scene.conditions = true) ∧
    (game.state.Reached l.challenge →
      g.recipe.challengeThreshold.toNat ≤ game.state.totalPoints.toNat) ∧
    ∀ i, i + 1 < brief.objectives.length → game.state.Reached (l.lesson (i + 1)) →
      game.state.hasVisited (l.lesson i) = true := by
  intro l game
  have htells := Generator.tells_of_generate hstory
  have hgame : game.OnStory story rules :=
    onStory_played moves (onStory_startOrResume story rules {} none now)
  have hgated := gated_played htells (Generator.startingSceneId_of_generate hstory) hmoves
  obtain ⟨place, hplace, hcurrent⟩ := hgated.placed
  obtain ⟨scene, hpeek, hat⟩ := peek_stop htells hgame hplace hcurrent
  refine ⟨⟨scene, hpeek, hgated.conditions_hold hat hcurrent⟩, hgated.opened, fun i hi h => ?_⟩
  -- The layout names the lessons by their positions, the course by their places.
  have hlesson : l.lesson i = (g.course title brief).stop (i + 1) :=
    Course.lesson_eq _ (Nat.lt_of_succ_lt hi)
  have hnext : l.lesson (i + 1) = (g.course title brief).stop (i + 1 + 1) := Course.lesson_eq _ hi
  rw [hnext] at h
  rw [hlesson]
  exact hgated.followed (i + 1) (Nat.succ_le_succ (Nat.zero_le i)) hi h

/-! ### A patient player -/

/-- A generator that has made a story of one lesson before. -/
def usedGenerator : Generator := { scenes := 5, choices := 10 }

/-- A brief with two lessons. -/
def opticsBrief : Brief := { subject := .physics, objectives := ["reflection", "refraction"] }

/-- The generator makes a story of the brief. -/
theorem isSome_generate_opticsBrief :
    (usedGenerator.generate "optics" "Light" "" opticsBrief).isSome = true := by decide +kernel

/-- The story for the brief. -/
def opticsStory : Activity :=
  ((usedGenerator.generate "optics" "Light" "" opticsBrief).get isSome_generate_opticsBrief).1

/-- The story is what the generator makes, whatever comes next. -/
theorem generate_opticsBrief :
    ∃ next, usedGenerator.generate "optics" "Light" "" opticsBrief = some (opticsStory, next) :=
  ⟨_, Generator.generate_eq_some_get isSome_generate_opticsBrief⟩

/-- A play of the story: the player practises at the gateway until the points suffice,
then solves the challenge, and goes back to what was saved. -/
def patientMoves : List (Readings × Move) :=
  let game := start opticsStory {} {} .epoch
  let earlier : List (Readings × Move) :=
    [(.epoch, .look), (.epoch, .choose "choice_12"), (.epoch, .choices),
      (.epoch, .choose "choice_13"), (.epoch, .complete "reflection"),
      (.epoch, .choose "choice_19"), (.epoch, .choose "choice_19")]
  earlier ++ [(.epoch, .save), (.epoch, .choose "choice_17"), (.epoch, .choose "choice_21"),
    (.epoch, .load (game.played earlier).save), (.epoch, .choose "choice_16")]

/-- The patient player stands before the challenge, and its gate is open. -/
theorem gates_hold_patientMoves :
    let l := (usedGenerator.course "Light" opticsBrief).layout
    let game := (start opticsStory {} {} .epoch).played patientMoves
    (∃ next, usedGenerator.generate "optics" "Light" "" opticsBrief = some (opticsStory, next)) ∧
    (start opticsStory {} {} .epoch).Offered [] patientMoves ∧
    game.state.currentSceneId = l.challenge ∧ game.state.hasVisited (l.lesson 0) = true ∧
    ∃ scene, game.peek = some scene ∧ game.holds scene.conditions = true := by
  intro l game
  have hmoves : (start opticsStory {} {} .epoch).Offered [] patientMoves := by decide +kernel
  have hcurrent : game.state.currentSceneId = l.challenge := by decide +kernel
  have hvisited : game.state.hasVisited (l.lesson 1) = true := by decide +kernel
  obtain ⟨next, hstory⟩ := generate_opticsBrief
  obtain ⟨hscene, -, hlessons⟩ := gates_hold hstory {} .epoch patientMoves hmoves
  exact ⟨generate_opticsBrief, hmoves, hcurrent, hlessons 0 (by decide) (.inr hvisited), hscene⟩

end Game

end Gamebook
