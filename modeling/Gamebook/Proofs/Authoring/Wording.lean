import Gamebook.Proofs.Authoring.Row
import Gamebook.Proofs.Play.Retold

/-!
# The wording of generated stories

The texts of a brief only reach the texts of a story. Two stories that one generator makes for as
many objectives and the same time of play tell each other in other words, down to the name of the
mentor, and so play alike.

## Key results

- `retold_scenes`: a course for another title and brief has the same scenes in other words
- `Generator.exists_retold`: so generated stories tell each other in other words
- `wording_is_cosmetic`: they play alike
-/

namespace Gamebook

namespace Course

/-- A course for another title and brief. -/
def reworded (p : Course) (title : String) (brief : Brief) : Course := { p with title, brief }

/-- Whether choices tell each other in the words of a course and of a course for another brief. -/
abbrev ChoiceRetold (p : Course) (brief : Brief) : Choice → Choice → Prop :=
  Choice.Retold p.flavour.mentorKey (Flavour.ofSubject brief.subject).mentorKey

/-- Whether scenes tell each other in the words of a course and of a course for another brief. -/
abbrev SceneRetold (p : Course) (brief : Brief) : Scene → Scene → Prop :=
  Scene.Retold p.flavour.mentorKey (Flavour.ofSubject brief.subject).mentorKey

variable (p : Course) (title : String) {brief : Brief}

/-! ## Ids -/

section

variable (hlength : brief.objectives.length = p.brief.objectives.length)
include hlength

/-- The ids of the choices depend on the number of lessons, and on no words. -/
theorem choiceAt_reworded (place n : Nat) :
    (p.reworded title brief).choiceAt place n = p.choiceAt place n := by
  have hlessons : (p.reworded title brief).lessons = p.lessons := hlength
  unfold choiceAt choicesUpTo
  rw [hlessons]
  rfl

/-- The ids are laid out in the same way for other words. -/
theorem layout_reworded : (p.reworded title brief).layout = p.layout := by
  have hlessons : (p.reworded title brief).lessons = p.lessons := hlength
  unfold layout
  rw [hlessons]
  rfl

end

/-! ## Choices -/

/-- Feedback is given on every topic, whatever it is called. -/
private theorem told_alike (before topic topic' rest : String) (h : before ≠ "") :
    (some (before ++ topic' ++ rest)).any (· ≠ "") =
      (some (before ++ topic ++ rest)).any (· ≠ "") := by
  simp [h]

section

variable (hlength : brief.objectives.length = p.brief.objectives.length)
include hlength

/-- The ways on from the opening are the same but for their words. -/
private theorem retold_openingWays :
    List.Forall₂ (p.ChoiceRetold brief) p.openingWays (p.reworded title brief).openingWays := by
  unfold openingWays
  -- The two ways are compared part by part.
  simp only [p.choiceAt_reworded title hlength]
  refine .cons ?_ (.cons ?_ .nil)
  · exact ⟨rfl, rfl, .nil, .cons (.addItem _ _) .nil, rfl, rfl, rfl⟩
  · exact ⟨rfl, rfl, .nil, .cons (.modifyRelationship 1) .nil, rfl, rfl, rfl⟩

/-- So are the ways on from a lesson. -/
private theorem retold_lessonWays (position : Nat) (objective objective' : String) :
    List.Forall₂ (p.ChoiceRetold brief) (p.lessonWays position objective)
      ((p.reworded title brief).lessonWays position objective') := by
  unfold lessonWays
  simp only [p.choiceAt_reworded title hlength]
  -- Each way differs in its words alone, which tell the objective of the lesson.
  refine .cons ?_ (.cons ?_ (.cons ?_ .nil))
  · exact ⟨rfl, rfl, .nil, .cons (.addItem _ _) .nil, rfl, rfl,
      told_alike _ objective objective' _ (by decide)⟩
  · exact ⟨rfl, rfl, .nil, .cons (.setFlag _ _) .nil, rfl, rfl,
      told_alike _ objective objective' _ (by decide)⟩
  · exact ⟨rfl, rfl, .nil, .cons (.setFlag _ _) (.cons (.modifyRelationship 1) .nil), rfl, rfl,
      told_alike _ objective objective' _ (by decide)⟩

/-- So are the ways on from the challenge. -/
private theorem retold_challengeWays :
    List.Forall₂ (p.ChoiceRetold brief) p.challengeWays
      (p.reworded title brief).challengeWays := by
  have hlessons : (p.reworded title brief).lessons = p.lessons := hlength
  unfold challengeWays
  simp only [p.choiceAt_reworded title hlength, hlessons]
  refine .cons ?_ (.cons ?_ (.cons ?_ .nil))
  · exact ⟨rfl, rfl, .nil, .cons (.setFlag _ _) (.cons (.unlockScene _) .nil), rfl, rfl,
      told_alike _ p.summary (p.reworded title brief).summary _ (by decide)⟩
  · -- The hint asks for the relationship with the mentor of each story.
    exact ⟨rfl, rfl, .cons (.relationship _ _) .nil, .cons (.setFlag _ _) .nil, rfl, rfl, rfl⟩
  · exact ⟨rfl, rfl, .nil, .nil, rfl, rfl, rfl⟩

/-- The gate asks for points only, which no wording changes. -/
private theorem retold_offers (place : Nat) {ways ways' : List Choice}
    (h : List.Forall₂ (p.ChoiceRetold brief) ways ways') :
    List.Forall₂ (p.ChoiceRetold brief) (p.offers place ways)
      ((p.reworded title brief).offers place ways') := by
  have hlessons : (p.reworded title brief).lessons = p.lessons := hlength
  have hgate : Condition.Retold p.flavour.mentorKey (Flavour.ofSubject brief.subject).mentorKey
      p.gate p.gate := .same p.gate nofun nofun
  -- The gate asks for points, which have no name, so it is the same gate in both stories.
  have hgated : ∀ c c', p.ChoiceRetold brief c c' →
      p.ChoiceRetold brief { c with conditions := c.conditions ++ [p.gate] }
        { c' with conditions := c'.conditions ++ [p.gate] } := fun c c' hc =>
    ⟨hc.id_eq, hc.nextSceneId_eq, List.rel_append hc.conditions (.cons hgate .nil), hc.actions,
      hc.points_eq, hc.difficulty_eq, hc.feedback_eq⟩
  unfold offers
  rw [hlessons, h.length_eq]
  simp only [p.choiceAt_reworded title hlength]
  split
  · refine List.rel_append (List.rel_map (fun {c c'} => hgated c c') h) (.cons ?_ (.cons ?_ .nil))
    · exact ⟨rfl, rfl, .nil, .cons (.setFlag _ _) .nil, rfl, rfl, rfl⟩
    · exact ⟨rfl, rfl, .nil, .nil, rfl, rfl, rfl⟩
  · exact h

/-! ## Scenes -/

/-- The opening scenes are the same but for their words. -/
theorem retold_atOpening : p.SceneRetold brief p.atOpening (p.reworded title brief).atOpening :=
  ⟨rfl, p.retold_offers title hlength 0 (p.retold_openingWays title hlength), rfl, rfl⟩

/-- So are the lessons, whatever their objectives are called. -/
theorem retold_atLesson (position : Nat) (objective objective' : String) :
    p.SceneRetold brief (p.atLesson position objective)
      ((p.reworded title brief).atLesson position objective') :=
  ⟨congrArg (·.lesson position) (p.layout_reworded title hlength),
    p.retold_offers title hlength (position + 1)
      (p.retold_lessonWays title hlength position objective objective'), rfl, rfl⟩

/-- Where one brief has a lesson, the other one has one as well. -/
theorem retold_lessons :
    List.Forall₂ (p.SceneRetold brief) (p.brief.objectives.mapIdx p.atLesson)
      (brief.objectives.mapIdx (p.reworded title brief).atLesson) := by
  rw [List.forall₂_iff_get]
  refine ⟨by simp [hlength], fun i h h' => ?_⟩
  simp only [List.get_eq_getElem, List.getElem_mapIdx]
  exact p.retold_atLesson title hlength i _ _

/-- A course for another title and brief has the same scenes in other words. -/
theorem retold_scenes :
    List.Forall₂ (p.SceneRetold brief) p.scenes (p.reworded title brief).scenes := by
  have hlayout := p.layout_reworded title hlength
  unfold scenes
  refine List.rel_append (.cons (p.retold_atOpening title hlength) (p.retold_lessons title hlength))
    (.cons ?_ (.cons ?_ (.cons ?_ .nil)))
  · exact ⟨congrArg (·.challenge) hlayout, p.retold_challengeWays title hlength, rfl, rfl⟩
  · exact ⟨congrArg (·.success) hlayout, .nil, rfl, rfl⟩
  · exact ⟨congrArg (·.alternative) hlayout, .nil, rfl, rfl⟩

end

end Course

/-- Where one story is generated, so is one with as many objectives and the same time of play, and
they tell each other in other words. -/
theorem Generator.exists_retold {g next : Generator} {id title description : String} {brief : Brief}
    {story : Activity} (h : g.generate id title description brief = some (story, next))
    (id' title' description' : String) {brief' : Brief}
    (hobjectives : brief'.objectives.length = brief.objectives.length)
    (hduration : brief'.duration = brief.duration) :
    ∃ story', g.generate id' title' description' brief' = some (story', next) ∧
      story.Retold (Flavour.ofSubject brief.subject).mentorKey
        (Flavour.ofSubject brief'.subject).mentorKey story' := by
  -- As many ids are drawn for the one brief as for the other.
  have hafter : (g.course title' brief').after = (g.course title brief).after := by
    unfold Course.after Course.lessons
    show Counts.mk (_ + brief'.objectives.length + 4) (_ + 3 * brief'.objectives.length + 7) = _
    rw [hobjectives]
    rfl
  obtain ⟨hfits, rfl, rfl⟩ := generate_eq_some_iff.1 h
  refine ⟨_, generate_eq_some_iff.2 ⟨hafter ▸ hfits, rfl, congrArg g.countedTo hafter.symm⟩,
    rfl, (g.course title brief).retold_scenes title' hobjectives, ?_, hobjectives⟩
  unfold Plan.activity plan
  simp only [hduration]

namespace Game

/-- Whatever the subjects, titles and texts of two briefs are, if they have as many objectives and
the same time of play, then their stories play alike: the same moves at the same times give answers
that differ in texts only, and after each of them the same choices are on offer, the player is in
the same place with the same points and the same log, and the results are equal in full. -/
theorem wording_is_cosmetic {g next : Generator} {id title description : String} {brief : Brief}
    {story : Activity} (hstory : g.generate id title description brief = some (story, next))
    (id' title' description' : String) {brief' : Brief}
    (hobjectives : brief'.objectives.length = brief.objectives.length)
    (hduration : brief'.duration = brief.duration) (rules : Rules) (now : Instant)
    (moves : List (Readings × Move)) (hmoves : ∀ m ∈ moves, m.2.isWordless = true) :
    ∃ story', g.generate id' title' description' brief' = some (story', next) ∧
      let one := start story rules {} now
      let other := start story' rules {} now
      (other.run moves).1.map Answer.outline = (one.run moves).1.map Answer.outline ∧
      ∀ n,
        let game := one.played (moves.take n)
        let game' := other.played (moves.take n)
        game'.choices.1.map (·.id) = game.choices.1.map (·.id) ∧
        game'.state.currentSceneId = game.state.currentSceneId ∧
        game'.state.totalPoints = game.state.totalPoints ∧
        game'.state.totalChoices = game.state.totalChoices ∧
        game'.state.visited = game.state.visited ∧ game'.log = game.log ∧
        game'.isComplete = game.isComplete ∧ ∀ later, game'.score later = game.score later := by
  obtain ⟨story', hstory', hretold⟩ :=
    Generator.exists_retold hstory id' title' description' hobjectives hduration
  have hstart := alike_start hretold rules now
  -- The answers come from the whole play, and what holds in between from its first moves.
  refine ⟨story', hstory', (hstart.run hretold moves hmoves).1, fun n => ?_⟩
  obtain ⟨-, hgame⟩ := hstart.run hretold (moves.take n) fun m hm =>
    hmoves m (List.mem_of_mem_take hm)
  exact ⟨hgame.choices_ids_eq hretold, hgame.state.currentSceneId_eq, hgame.state.totalPoints_eq,
    hgame.state.totalChoices_eq, hgame.state.visited_eq, hgame.log_eq, hgame.isComplete_eq hretold,
    hgame.score_eq hretold⟩

/-! ### Two subjects -/

/-- A brief on the sea. -/
def seaBrief : Brief :=
  { subject := .biology, grade := "7", objectives := ["tides", "plankton"], multimedia := true }

/-- A brief on proofs, with an objective without a text. -/
def proofBrief : Brief :=
  { subject := .mathematics, difficulty := .hard, objectives := ["", "induction"]
    theme := some "Doors" }

/-- A play that befriends the mentor, so that the hint is on offer in the end. -/
def friendlyMoves : List (Readings × Move) :=
  [(.epoch, .look), (.epoch, .choose "choice_2"), (.epoch, .choose "choice_9"),
    (.epoch, .choose "choice_5"), (.epoch, .complete "tides"), (.epoch, .choices),
    (.epoch, .choose "choice_6"), (.epoch, .choose "choice_12"), (.epoch, .score)]

/-- The generator makes a story of the brief. -/
theorem isSome_generate_seaBrief :
    (({} : Generator).generate "a" "Sea" "" seaBrief).isSome = true := by decide +kernel

/-- The story about the sea. -/
def seaStory : Activity :=
  ((({} : Generator).generate "a" "Sea" "" seaBrief).get isSome_generate_seaBrief).1

/-- The two mentors go by different names, and give the hint for the same choices. -/
theorem wording_is_cosmetic_friendlyMoves :
    let one := start seaStory {} {} .epoch
    proofBrief.objectives.length = seaBrief.objectives.length ∧
    proofBrief.duration = seaBrief.duration ∧ (∀ m ∈ friendlyMoves, m.2.isWordless = true) ∧
    (Flavour.ofSubject proofBrief.subject).mentorKey ≠
      (Flavour.ofSubject seaBrief.subject).mentorKey ∧
    ∃ next story, ({} : Generator).generate "a" "Sea" "" seaBrief = some (seaStory, next) ∧
      ({} : Generator).generate "b" "Proofs" "" proofBrief = some (story, next) ∧
      let other := start story {} {} .epoch
      (other.run friendlyMoves).1.map Answer.outline =
        (one.run friendlyMoves).1.map Answer.outline ∧
      (other.played (friendlyMoves.take 7)).choices.1.map (·.id) =
        ["choice_11", "choice_12", "choice_13"] ∧
      (other.played friendlyMoves).score .epoch = (one.played friendlyMoves).score .epoch := by
  intro one
  have hstory := Generator.generate_eq_some_get isSome_generate_seaBrief
  have hobjectives : proofBrief.objectives.length = seaBrief.objectives.length := rfl
  have hmoves : ∀ m ∈ friendlyMoves, m.2.isWordless = true := by decide
  obtain ⟨story, hgenerate, hanswers, hgames⟩ := wording_is_cosmetic hstory "b" "Proofs" ""
    hobjectives rfl {} .epoch friendlyMoves hmoves
  -- The offer is looked up in the first story and carried over to the second.
  have hoffer : (one.played (friendlyMoves.take 7)).choices.1.map (·.id) =
      ["choice_11", "choice_12", "choice_13"] := by decide +kernel
  obtain ⟨hchoices, -⟩ := hgames 7
  obtain ⟨-, -, -, -, -, -, -, hscore⟩ := hgames friendlyMoves.length
  rw [List.take_length] at hscore
  exact ⟨rfl, rfl, hmoves, by decide, _, story, hstory, hgenerate, hanswers,
    hchoices.trans hoffer, hscore .epoch⟩

end Game

end Gamebook
