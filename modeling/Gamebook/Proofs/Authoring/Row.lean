import Gamebook.Proofs.Authoring.Counting
import Mathlib

/-!
# The scenes of a generated story in a row

The scenes of a generated story are counted from zero: the opening, the lessons, the challenge and
the two endings. Their ids follow from their places and from the counts of the generator, and so do
those of their choices, though these are drawn one after the other as the scenes are made. So each
scene is found under its id, and each choice leads from one place to another.

## Key results

- `Course`: a story as a row of scenes, with `stop` and `choiceAt` for the ids
- `draws_makeScenes`: what is made for a plan are the scenes of the course
- `generate_eq_some_iff`: when a story is generated, and which one
- `find?_stop`: the scene at a place is found under its id
- `WayOn`, `At.wayOn`: where the choices of a scene lead, and which of them are closed by the gate
- `At.choice?_id`: a choice of a generated scene is found under its id
-/

namespace Gamebook

/-- Different numbers make different ids of scenes. -/
theorem sceneId_inj {m n : Nat} : sceneId m = sceneId n ↔ m = n := by
  unfold sceneId
  rw [String.append_right_inj]
  exact Nat.repr_inj

/-- Different numbers make different ids of choices. -/
theorem choiceId_inj {m n : Nat} : choiceId m = choiceId n ↔ m = n := by
  unfold choiceId
  rw [String.append_right_inj]
  exact Nat.repr_inj

/-- A story as a row of scenes: what they are made from, and how much was made before. -/
structure Course extends Plan where
  before : Counts

/-- The course of the next story of a generator. -/
def Generator.course (g : Generator) (title : String) (brief : Brief) : Course :=
  { g.plan title brief with before := g.counts }

namespace Course

/-! ## Ids by places -/

/-- How many lessons there are. -/
def lessons (p : Course) : Nat := p.brief.objectives.length

/-- The id of the scene at a place, counted from zero. -/
def stop (p : Course) (place : Nat) : String := sceneId (p.before.scenes + 1 + place)

/-- Scenes at different places have different ids. -/
@[simp] theorem stop_inj (p : Course) {m n : Nat} : p.stop m = p.stop n ↔ m = n := by
  unfold stop
  rw [sceneId_inj]
  omega

/-- How many choices the generator has made up to a place of the story: three at each, but one less
for the opening, and two more for the gateway. The endings have none. -/
def choicesUpTo (p : Course) (place : Nat) : Nat :=
  p.before.choices + (3 * min place (p.lessons + 2) - 1) + (if p.lessons < place then 2 else 0)

/-- Before the first place only the choices of earlier stories are counted. -/
theorem choicesUpTo_zero (p : Course) : p.choicesUpTo 0 = p.before.choices := by
  unfold choicesUpTo
  split <;> omega

/-- The endings offer no choices, so none are counted beyond the challenge. -/
theorem choicesUpTo_end (p : Course) {place : Nat} (hplace : p.lessons + 2 ≤ place) :
    p.choicesUpTo place = p.before.choices + 3 * p.lessons + 7 := by
  unfold choicesUpTo
  split <;> omega

/-- The choices are counted from the front of the row to its end. -/
theorem choicesUpTo_le_succ (p : Course) (place : Nat) :
    p.choicesUpTo place ≤ p.choicesUpTo (place + 1) := by
  unfold choicesUpTo
  split <;> split <;> omega

/-- The choices of an ordinary place: the ways on, and two more at the gateway. -/
theorem choicesUpTo_succ (p : Course) {place : Nat} (hplace : place ≤ p.lessons) :
    p.choicesUpTo (place + 1) = p.choicesUpTo place + (if place = 0 then 2 else 3) +
      (if place = p.lessons then 2 else 0) := by
  unfold choicesUpTo
  split <;> split <;> split <;> split <;> omega

/-- The challenge offers three choices. -/
theorem choicesUpTo_challenge (p : Course) :
    p.choicesUpTo (p.lessons + 2) = p.choicesUpTo (p.lessons + 1) + 3 := by
  unfold choicesUpTo
  split <;> split <;> omega

/-- The id of a choice of the scene at a place, counted from zero. -/
def choiceAt (p : Course) (place n : Nat) : String := choiceId (p.choicesUpTo place + 1 + n)

/-- No two choices at one place have the same id. -/
theorem choiceAt_inj (p : Course) (place : Nat) : Function.Injective (p.choiceAt place) := by
  intro m n h
  unfold choiceAt at h
  rw [choiceId_inj] at h
  omega

/-- The ids of the scenes. -/
def layout (p : Course) : Layout where
  opening := p.stop 0
  lessons := (List.range p.lessons).map fun i => p.stop (i + 1)
  challenge := p.stop (p.lessons + 1)
  success := p.stop (p.lessons + 2)
  alternative := p.stop (p.lessons + 3)

/-- The lessons are laid out from the second place on. -/
theorem layout_lessons_getElem? (p : Course) {position : Nat} (h : position < p.lessons) :
    p.layout.lessons[position]? = some (p.stop (position + 1)) := by
  unfold layout
  simp [h]

/-- Each lesson stands one place behind its number. -/
theorem lesson_eq (p : Course) {position : Nat} (h : position < p.lessons) :
    p.layout.lesson position = p.stop (position + 1) := by
  unfold Layout.lesson
  rw [p.layout_lessons_getElem? h]
  rfl

/-- After the last lesson comes the challenge, in the next place as well. -/
theorem afterLessons_eq (p : Course) {n : Nat} (hn : n ≤ p.lessons) :
    p.layout.afterLessons n = p.stop (n + 1) := by
  unfold Layout.afterLessons
  rcases Nat.lt_or_eq_of_le hn with hlt | rfl
  · rw [p.layout_lessons_getElem? hlt]
    rfl
  · have hnone : p.layout.lessons[p.lessons]? = none := by
      unfold layout
      simp
    rw [hnone]
    rfl

/-- The gateway is the last lesson, or the opening if there are no lessons. -/
theorem gateway_eq (p : Course) : p.layout.gateway = p.stop p.lessons := by
  unfold Layout.gateway
  rw [List.getLast?_eq_getElem?]
  have hlength : p.layout.lessons.length = p.lessons := by
    unfold layout
    simp
  rw [hlength]
  cases hlessons : p.lessons with
  -- Without lessons there is no last lesson, and the opening is the gateway.
  | zero =>
    have hnone : p.layout.lessons[0 - 1]? = none := by
      unfold layout
      simp [hlessons]
    rw [hnone]
    rfl
  | succ n =>
    rw [Nat.add_sub_cancel, p.layout_lessons_getElem? (by omega)]
    rfl

/-! ## The scenes -/

/-- The ways on from a place, as the scene there offers them: through the gate and with two choices
more if it is the gateway. -/
def offers (p : Course) (place : Nat) (ways : List Choice) : List Choice :=
  if place = p.lessons then
    p.gated ways ++
      [p.practise (p.choiceAt place ways.length) (p.stop place),
        p.leave (p.choiceAt place (ways.length + 1)) (p.stop (p.lessons + 3))]
  else ways

/-- The ways on from the opening. -/
def openingWays (p : Course) : List Choice :=
  [p.begin (p.choiceAt 0 0) (p.stop 1), p.greet (p.choiceAt 0 1) (p.stop 1)]

/-- The ways on from a lesson. -/
def lessonWays (p : Course) (position : Nat) (objective : String) : List Choice :=
  [p.observe (p.choiceAt (position + 1) 0) (p.stop (position + 2)) position objective,
    p.experiment (p.choiceAt (position + 1) 1) (p.stop (position + 2)) position objective,
    p.analyze (p.choiceAt (position + 1) 2) (p.stop (position + 2)) position objective]

/-- The ways on from the challenge. -/
def challengeWays (p : Course) : List Choice :=
  [p.solve (p.choiceAt (p.lessons + 1) 0) (p.stop (p.lessons + 2)),
    p.hint (p.choiceAt (p.lessons + 1) 1) (p.stop (p.lessons + 2)),
    p.retreat (p.choiceAt (p.lessons + 1) 2) (p.stop (p.lessons + 3))]

/-- The opening. -/
def atOpening (p : Course) : Scene := p.openingWith p.layout (p.offers 0 p.openingWays)

/-- The lesson with a position, counted from zero. -/
def atLesson (p : Course) (position : Nat) (objective : String) : Scene :=
  p.lessonWith p.layout position objective
    (p.offers (position + 1) (p.lessonWays position objective))

/-- The challenge. -/
def atChallenge (p : Course) : Scene := p.challengeWith p.layout p.challengeWays

/-- All scenes. -/
def scenes (p : Course) : List Scene :=
  p.atOpening :: p.brief.objectives.mapIdx p.atLesson ++
    [p.atChallenge, p.successScene p.layout, p.alternativeScene p.layout]

/-- How much has been made with the story. -/
def after (p : Course) : Counts :=
  ⟨p.before.scenes + p.lessons + 4, p.before.choices + 3 * p.lessons + 7⟩

/-! ## Making them -/

variable (p : Course)

/-- The next id of a scene is that of the next place. -/
theorem draws_stop (place choices : Nat) :
    Draws nextSceneId ⟨p.before.scenes + place, choices⟩ (p.stop place)
      ⟨p.before.scenes + (place + 1), choices⟩ := by
  have hdraw := draws_nextSceneId ⟨p.before.scenes + place, choices⟩
  have hnumber : p.before.scenes + place + 1 = p.before.scenes + 1 + place := by omega
  have hid : sceneId (p.before.scenes + place + 1) = p.stop place := congrArg sceneId hnumber
  rwa [hid] at hdraw

/-- The next id of a choice at a place is drawn once the earlier ones at that place are. -/
theorem draws_choiceAt (place n scenes : Nat) :
    Draws nextChoiceId ⟨scenes, p.choicesUpTo place + n⟩ (p.choiceAt place n)
      ⟨scenes, p.choicesUpTo place + (n + 1)⟩ := by
  have hdraw := draws_nextChoiceId ⟨scenes, p.choicesUpTo place + n⟩
  have hnumber : p.choicesUpTo place + n + 1 = p.choicesUpTo place + 1 + n := by omega
  have hid : choiceId (p.choicesUpTo place + n + 1) = p.choiceAt place n :=
    congrArg choiceId hnumber
  rwa [hid] at hdraw

/-- The ids of the lessons are drawn behind that of the opening. -/
private theorem draws_lessonStops (choices : Nat) :
    Draws (p.brief.objectives.mapM fun _ => nextSceneId) ⟨p.before.scenes + 1, choices⟩
      p.layout.lessons ⟨p.before.scenes + (p.lessons + 1), choices⟩ := by
  have hdraw := draws_mapM_nextSceneId p.brief.objectives ⟨p.before.scenes + 1, choices⟩
  have hid : ∀ i, sceneId (p.before.scenes + 1 + 1 + i) = p.stop (i + 1) :=
    fun i => congrArg sceneId (by omega)
  have hend : p.before.scenes + 1 + p.brief.objectives.length =
      p.before.scenes + (p.lessons + 1) := by
    unfold lessons
    omega
  simp only [hid, hend] at hdraw
  exact hdraw

/-- The ids of the scenes are drawn in the order of their places. -/
theorem draws_layout :
    Draws (Layout.draw p.brief.objectives) p.before p.layout
      ⟨p.after.scenes, p.choicesUpTo 0⟩ := by
  rw [p.choicesUpTo_zero]
  exact (p.draws_stop 0 _).bind <| (p.draws_lessonStops _).bind <|
    (p.draws_stop (p.lessons + 1) _).bind <| (p.draws_stop (p.lessons + 2) _).bind <|
    (p.draws_stop (p.lessons + 3) _).map rfl

/-- At the gateway two choices more are made than the ways on. -/
private theorem draws_offers (place scenes : Nat) (scene : Scene) (hid : scene.id = p.stop place) :
    Draws (if p.layout.gateway = p.stop place then p.gateForwardChoices p.layout scene
        else return scene)
      ⟨scenes, p.choicesUpTo place + scene.choices.length⟩
      { scene with choices := p.offers place scene.choices }
      ⟨scenes, p.choicesUpTo place + scene.choices.length +
        if place = p.lessons then 2 else 0⟩ := by
  unfold offers
  rw [p.gateway_eq]
  by_cases hplace : place = p.lessons
  -- At the gateway the two ids for the gate are drawn after those of the ways on.
  · rw [if_pos (p.stop_inj.2 hplace.symm), if_pos hplace, if_pos hplace, ← hid]
    exact (p.draws_choiceAt place _ _).bind <| (p.draws_choiceAt place _ _).map rfl
  · rw [if_neg fun h => hplace (p.stop_inj.1 h).symm, if_neg hplace, if_neg hplace]
    exact draws_pure _ _

/-- The opening scene is made as it stands in the row. -/
theorem draws_openingScene (scenes : Nat) :
    Draws (p.openingScene p.layout) ⟨scenes, p.choicesUpTo 0⟩ p.atOpening
      ⟨scenes, p.choicesUpTo 1⟩ := by
  have hnext : p.layout.afterLessons 0 = p.stop 1 := p.afterLessons_eq (Nat.zero_le _)
  have hoffers := p.draws_offers 0 scenes (p.openingWith p.layout p.openingWays) rfl
  have hcount := p.choicesUpTo_succ (Nat.zero_le p.lessons)
  rw [if_pos rfl] at hcount
  rw [hcount]
  unfold Plan.openingScene
  rw [hnext]
  exact (p.draws_choiceAt 0 0 _).bind <| (p.draws_choiceAt 0 1 _).bind hoffers

/-- Each lesson is made as it stands in the row. -/
theorem draws_lessonScene (scenes : Nat) {position : Nat} (hposition : position < p.lessons)
    (objective : String) :
    Draws (p.lessonScene p.layout position objective) ⟨scenes, p.choicesUpTo (position + 1)⟩
      (p.atLesson position objective) ⟨scenes, p.choicesUpTo (position + 2)⟩ := by
  have hid : p.layout.lesson position = p.stop (position + 1) := p.lesson_eq hposition
  have hnext : p.layout.afterLessons (position + 1) = p.stop (position + 2) :=
    p.afterLessons_eq hposition
  have hoffers := p.draws_offers (position + 1) scenes
    (p.lessonWith p.layout position objective (p.lessonWays position objective)) hid
  have hcount : p.choicesUpTo (position + 1 + 1) = _ := p.choicesUpTo_succ hposition
  -- Only the opening has a choice less, and this is none.
  rw [if_neg (Nat.succ_ne_zero position)] at hcount
  rw [hcount]
  unfold Plan.lessonScene
  rw [hnext, hid]
  exact (p.draws_choiceAt _ 0 _).bind <| (p.draws_choiceAt _ 1 _).bind <|
    (p.draws_choiceAt _ 2 _).bind hoffers

/-- The lessons are made one after the other, each at its place. -/
theorem draws_lessonScenes (scenes : Nat) (objectives : List String) (position : Nat)
    (hposition : position + objectives.length = p.lessons) :
    Draws (p.lessonScenes p.layout position objectives) ⟨scenes, p.choicesUpTo (position + 1)⟩
      (objectives.mapIdx fun i => p.atLesson (position + i))
      ⟨scenes, p.choicesUpTo (p.lessons + 1)⟩ := by
  induction objectives generalizing position with
  | nil =>
    -- No lesson is left, so the count of choices is where it should end.
    obtain rfl : position = p.lessons := hposition
    exact draws_pure _ _
  | cons objective objectives ih =>
    rw [List.length_cons] at hposition
    have hlater := ih (position + 1) (by omega)
    -- The lessons that follow are counted from one place further.
    have hshift : ∀ i, position + 1 + i = position + (i + 1) := fun i => by omega
    simp only [hshift] at hlater
    refine (p.draws_lessonScene scenes (by omega) objective).bind (hlater.map ?_)
    rw [List.mapIdx_cons]
    rfl

/-- The challenge is made as it stands in the row. -/
theorem draws_challengeScene (scenes : Nat) :
    Draws (p.challengeScene p.layout) ⟨scenes, p.choicesUpTo (p.lessons + 1)⟩ p.atChallenge
      ⟨scenes, p.choicesUpTo (p.lessons + 2)⟩ := by
  rw [p.choicesUpTo_challenge]
  exact (p.draws_choiceAt _ 0 _).bind <| (p.draws_choiceAt _ 1 _).bind <|
    (p.draws_choiceAt _ 2 _).map rfl

/-- What is made for a plan are the scenes of its course. -/
theorem draws_makeScenes : Draws p.makeScenes p.before p.scenes p.after := by
  have hlessons := p.draws_lessonScenes p.after.scenes p.brief.objectives 0 (Nat.zero_add _)
  simp only [Nat.zero_add] at hlessons
  have hend : p.choicesUpTo (p.lessons + 2) = p.after.choices := p.choicesUpTo_end (Nat.le_refl _)
  have hchallenge := p.draws_challengeScene p.after.scenes
  rw [hend] at hchallenge
  exact p.draws_layout.bind <| (p.draws_openingScene _).bind <| hlessons.bind <|
    hchallenge.map rfl

/-! ## The scene at a place -/

/-- What stands at a place of the row. -/
inductive At (p : Course) : Nat → Scene → Prop where
  | opening : At p 0 p.atOpening
  | lesson (position : Nat) (objective : String) (h : position < p.lessons) :
    At p (position + 1) (p.atLesson position objective)
  | challenge : At p (p.lessons + 1) p.atChallenge
  | success : At p (p.lessons + 2) (p.successScene p.layout)
  | alternative : At p (p.lessons + 3) (p.alternativeScene p.layout)

/-- There are four scenes beside the lessons. -/
theorem length_scenes : p.scenes.length = p.lessons + 4 := by
  unfold scenes lessons
  simp

variable {p} {place : Nat} {scene : Scene}

/-- Each scene of the story stands at its place. -/
theorem at_of_getElem? (h : p.scenes[place]? = some scene) : p.At place scene := by
  unfold scenes at h
  cases place with
  | zero =>
    simp only [List.cons_append, List.getElem?_cons_zero, Option.some.injEq] at h
    subst h
    exact .opening
  | succ n =>
    have hlength : (p.brief.objectives.mapIdx p.atLesson).length = p.lessons := List.length_mapIdx
    rw [List.cons_append, List.getElem?_cons_succ] at h
    by_cases hn : n < p.lessons
    · -- The place is that of a lesson.
      rw [List.getElem?_append_left (hlength ▸ hn), List.getElem?_mapIdx,
        Option.map_eq_some_iff] at h
      obtain ⟨objective, -, rfl⟩ := h
      exact .lesson n objective hn
    · rw [List.getElem?_append_right (by omega), hlength] at h
      obtain ⟨k, rfl⟩ : ∃ k, n = p.lessons + k := ⟨n - p.lessons, by omega⟩
      rw [Nat.add_sub_cancel_left] at h
      -- Three scenes come after the lessons.
      match k, h with
      | 0, h =>
        simp only [List.getElem?_cons_zero, Option.some.injEq] at h
        subst h
        exact .challenge
      | 1, h =>
        simp only [List.getElem?_cons_succ, List.getElem?_cons_zero, Option.some.injEq] at h
        subst h
        exact .success
      | 2, h =>
        simp only [List.getElem?_cons_succ, List.getElem?_cons_zero, Option.some.injEq] at h
        subst h
        exact .alternative
      | k + 3, h =>
        simp at h

/-- Each scene has the id of its place. -/
theorem At.id_eq (h : p.At place scene) : scene.id = p.stop place := by
  cases h with
  | opening => rfl
  | lesson position objective hposition => exact p.lesson_eq hposition
  | challenge => rfl
  | success => rfl
  | alternative => rfl

/-- The scene at a place is found under its id. -/
theorem find?_stop (p : Course) (place : Nat) :
    p.scenes.find? (·.id = p.stop place) = p.scenes[place]? := by
  have hid : ∀ i (h : i < p.scenes.length), p.scenes[i].id = p.stop i := fun i h =>
    (at_of_getElem? (List.getElem?_eq_getElem h)).id_eq
  cases hscene : p.scenes[place]? with
  | none =>
    -- Beyond the row no scene has the id of the place.
    rw [List.getElem?_eq_none_iff] at hscene
    rw [List.find?_eq_none]
    intro scene hmem
    obtain ⟨i, hi, rfl⟩ := List.getElem_of_mem hmem
    rw [hid i hi, decide_eq_true_iff, stop_inj]
    omega
  | some scene =>
    obtain ⟨hlt, rfl⟩ := List.getElem?_eq_some_iff.1 hscene
    rw [List.find?_eq_some_iff_getElem]
    -- The scenes before it have the ids of their own places.
    refine ⟨by rw [hid place hlt]; simp, place, hlt, rfl, fun j hj => ?_⟩
    rw [hid j (by omega)]
    simp only [stop_inj, Bool.not_eq_eq_eq_not, Bool.not_true, decide_eq_false_iff_not]
    omega

/-- Whether a story has the scenes of a course, each at its place. -/
def Tells (p : Course) (story : Activity) : Prop :=
  ∀ place < p.lessons + 4,
    ∃ scene, story.scene? (p.stop place) = some scene ∧ p.At place scene

/-- The activity that is made of the row has a scene at each place. -/
theorem tells_activity (p : Course) (id description : String) :
    p.Tells (p.activity id description p.scenes) := by
  intro place hplace
  have hlt : place < p.scenes.length := by
    rw [length_scenes]
    exact hplace
  refine ⟨p.scenes[place], ?_, at_of_getElem? (List.getElem?_eq_getElem hlt)⟩
  rw [← List.getElem?_eq_getElem hlt]
  exact p.find?_stop place

/-! ## Where choices lead -/

/-- How a choice leads from the scene at one place to that at another. -/
inductive WayOn (p : Course) (place : Nat) (choice : Choice) : Nat → Prop where
  /-- On to the next place, through the gate if that is the challenge. -/
  | onward (h : place ≤ p.lessons) (hgate : place = p.lessons → p.gate ∈ choice.conditions) :
      WayOn p place choice (place + 1)
  /-- Round to the gateway itself. -/
  | practise (h : place = p.lessons) : WayOn p place choice place
  /-- Away from the gateway. -/
  | leave (h : place = p.lessons) : WayOn p place choice (p.lessons + 3)
  | solve (h : place = p.lessons + 1) : WayOn p place choice (p.lessons + 2)
  | retreat (h : place = p.lessons + 1) : WayOn p place choice (p.lessons + 3)

/-- No way leads out of the story. -/
theorem WayOn.next_lt {choice : Choice} {next : Nat} (h : p.WayOn place choice next) :
    next < p.lessons + 4 := by
  cases h <;> omega

/-- The choices of an ordinary place lead to the next one, and from the gateway also back to it and
away. -/
private theorem wayOn_of_mem_offers (ways : List Choice) (hplace : place ≤ p.lessons)
    (hnext : ∀ c ∈ ways, c.nextSceneId = p.stop (place + 1)) {choice : Choice}
    (hchoice : choice ∈ p.offers place ways) :
    ∃ next, choice.nextSceneId = p.stop next ∧ p.WayOn place choice next := by
  unfold offers Plan.gated at hchoice
  split at hchoice
  -- The gateway offers two choices of its own beside the gated ways on.
  next hlast =>
    simp only [List.mem_append, List.mem_map, List.mem_cons, List.not_mem_nil, or_false] at hchoice
    obtain ⟨c, hc, rfl⟩ | rfl | rfl := hchoice
    · exact ⟨place + 1, hnext c hc, .onward hplace fun _ => by simp⟩
    · exact ⟨place, rfl, .practise hlast⟩
    · exact ⟨p.lessons + 3, rfl, .leave hlast⟩
  next hearlier =>
    exact ⟨place + 1, hnext choice hchoice, .onward hplace fun h => absurd h hearlier⟩

/-- Where the choices of a scene lead. -/
theorem At.wayOn (h : p.At place scene) {choice : Choice} (hchoice : choice ∈ scene.choices) :
    ∃ next, choice.nextSceneId = p.stop next ∧ p.WayOn place choice next := by
  cases h with
  | opening =>
    -- The opening and the lessons lead on by their own ways, which all go to the next place.
    refine wayOn_of_mem_offers p.openingWays (Nat.zero_le _) (fun c hc => ?_) hchoice
    simp only [openingWays, List.mem_cons, List.not_mem_nil, or_false] at hc
    obtain rfl | rfl := hc
    · rfl
    · rfl
  | lesson position objective hposition =>
    refine wayOn_of_mem_offers (p.lessonWays position objective) hposition (fun c hc => ?_) hchoice
    simp only [lessonWays, List.mem_cons, List.not_mem_nil, or_false] at hc
    obtain rfl | rfl | rfl := hc
    · rfl
    · rfl
    · rfl
  | challenge =>
    -- With a hint the challenge is solved as well.
    simp only [atChallenge, Plan.challengeWith, challengeWays, List.mem_cons, List.not_mem_nil,
      or_false] at hchoice
    obtain rfl | rfl | rfl := hchoice
    · exact ⟨_, rfl, .solve rfl⟩
    · exact ⟨_, rfl, .solve rfl⟩
    · exact ⟨_, rfl, .retreat rfl⟩
  | success => exact absurd hchoice List.not_mem_nil
  | alternative => exact absurd hchoice List.not_mem_nil

/-! ## Choices by id -/

/-- Whether the choices of a list have the first ids of a place, in order. -/
def Counted (p : Course) (place : Nat) (choices : List Choice) : Prop :=
  choices.map (·.id) = (List.range choices.length).map (p.choiceAt place)

/-- What a gateway offers besides the ways on has the next ids. -/
private theorem counted_offers (ways : List Choice) (h : p.Counted place ways) :
    p.Counted place (p.offers place ways) := by
  unfold Counted offers
  split
  next =>
    -- The gate changes the conditions of the ways on, but not their ids.
    have hgated : (p.gated ways).map (·.id) = ways.map (·.id) := by
      unfold Plan.gated
      rw [List.map_map]
      rfl
    have hlength : (p.gated ways).length = ways.length := List.length_map _
    rw [List.map_append, hgated, h, List.length_append, hlength, List.length_cons,
      List.length_singleton, List.range_add, List.map_append, List.map_map]
    rfl
  next => exact h

/-- The choices at each place have ids in order. -/
theorem At.counted (h : p.At place scene) : p.Counted place scene.choices := by
  cases h with
  | opening => exact counted_offers p.openingWays rfl
  | lesson position objective => exact counted_offers (p.lessonWays position objective) rfl
  | challenge => rfl
  | success => rfl
  | alternative => rfl

/-- The choices of a scene have different ids. -/
theorem At.nodup_choices (h : p.At place scene) : (scene.choices.map (·.id)).Nodup := by
  rw [h.counted]
  exact List.nodup_range.map (p.choiceAt_inj place)

/-- A choice of a generated scene is found under its id. -/
theorem At.choice?_id (h : p.At place scene) {choice : Choice} (hchoice : choice ∈ scene.choices) :
    scene.choice? choice.id = some choice :=
  Scene.choice?_of_mem h.nodup_choices hchoice

/-! ## Gates and endings -/

/-- The conditions of the scene at a place: a lesson asks for the one before, the challenge for
enough points. -/
theorem At.conditions_eq (h : p.At place scene) :
    scene.conditions =
      if place = p.lessons + 1 then [p.gate]
      else if 2 ≤ place ∧ place ≤ p.lessons then [.visited (p.stop (place - 1))]
      else [] := by
  cases h with
  | opening => rw [if_neg (by omega), if_neg (by omega)]; rfl
  | lesson position objective hposition =>
    rw [if_neg (by omega)]
    unfold atLesson Plan.lessonWith
    cases position with
    | zero =>
      -- The first lesson asks for nothing.
      simp
    | succ n =>
      dsimp only
      rw [if_neg (by omega), if_pos (by omega), Nat.add_sub_cancel, p.lesson_eq (by omega)]
      rfl
  | challenge => rw [if_pos rfl]; rfl
  | success => rw [if_neg (by omega), if_neg (by omega)]; rfl
  | alternative => rw [if_neg (by omega), if_neg (by omega)]; rfl

/-- The story ends in the last two places. -/
theorem At.isEnding_eq (h : p.At place scene) :
    scene.isEnding = decide (p.lessons + 2 ≤ place) := by
  cases h with
  | opening => rw [decide_eq_false (by omega)]; rfl
  | lesson position objective hposition => rw [decide_eq_false (by omega)]; rfl
  | challenge => rw [decide_eq_false (by omega)]; rfl
  | success => rw [decide_eq_true (by omega)]; rfl
  | alternative => rw [decide_eq_true (by omega)]; rfl

end Course

/-! ## Generated stories -/

namespace Generator

variable {g next : Generator} {id title description : String} {brief : Brief}

/-- The scenes of a story are generated if the generator can count so far, and they are those of its
course. -/
theorem generateScenes_eq_some_iff {scenes : List Scene} :
    g.generateScenes title brief = some (scenes, next) ↔
      (g.course title brief).after.Fits ∧ scenes = (g.course title brief).scenes ∧
        next = g.countedTo (g.course title brief).after :=
  (g.course title brief).draws_makeScenes.run_eq_some_iff rfl

/-- A story is generated if the generator can count so far, and it has the scenes of its course. -/
theorem generate_eq_some_iff {story : Activity} :
    g.generate id title description brief = some (story, next) ↔
      (g.course title brief).after.Fits ∧
        story = (g.plan title brief).activity id description (g.course title brief).scenes ∧
        next = g.countedTo (g.course title brief).after := by
  unfold generate
  constructor
  · intro h
    -- The activity is only wrapped around the scenes, which are those of the row if they fit.
    obtain ⟨⟨scenes, last⟩, hscenes, hstory⟩ := Option.bind_eq_some_iff.1 h
    obtain ⟨hfits, rfl, rfl⟩ := generateScenes_eq_some_iff.1 hscenes
    obtain ⟨rfl, rfl⟩ := Prod.mk.inj (Option.some.inj hstory)
    exact ⟨hfits, rfl, rfl⟩
  · rintro ⟨hfits, rfl, rfl⟩
    rw [generateScenes_eq_some_iff.2 ⟨hfits, rfl, rfl⟩]
    rfl

/-- What a generator makes, where it makes something, is its result. -/
theorem generate_eq_some_get (h : (g.generate id title description brief).isSome) :
    g.generate id title description brief =
      some (((g.generate id title description brief).get h).1,
        ((g.generate id title description brief).get h).2) :=
  (Option.some_get h).symm

/-- A generated story starts at the first place of its course. -/
theorem startingSceneId_of_generate {story : Activity}
    (h : g.generate id title description brief = some (story, next)) :
    story.startingSceneId = (g.course title brief).stop 0 := by
  obtain ⟨-, rfl, -⟩ := generate_eq_some_iff.1 h
  rfl

/-- A generated story has the scenes of its course, each at its place. -/
theorem tells_of_generate {story : Activity}
    (h : g.generate id title description brief = some (story, next)) :
    (g.course title brief).Tells story := by
  obtain ⟨-, rfl, -⟩ := generate_eq_some_iff.1 h
  exact (g.course title brief).tells_activity id description

end Generator

end Gamebook
