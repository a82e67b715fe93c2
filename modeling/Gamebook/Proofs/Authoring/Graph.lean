import Gamebook.Proofs.Authoring.WayOut
import Gamebook.Proofs.Story.Issues

/-!
# The graph of a generated story

A generated story has no issues: its ids are those of the places in the row, each choice leads to
one of the places, and the row ends with two endings. Along its choices one can walk from the
opening to every scene, and from every scene to an ending.

## Key results

- `Activity.Way`: the choices of a story as ways from scene to scene
- `wellNamed_of_tells` / `wellLinked_of_tells`: a story that tells the scenes of a course has no
  issues
- `reaches_of_le`: one can walk along the row
- `generate_sound`: every generated story is free of issues, and no scene of it lies aside
-/

namespace Gamebook

/-- Whether a choice of a scene leads to another scene. -/
def Activity.Way (activity : Activity) (scene next : Scene) : Prop :=
  ∃ choice ∈ scene.choices, activity.scene? choice.nextSceneId = some next

namespace Course

variable {p : Course} {story : Activity} {place : Nat} {scene : Scene}

/-! ## The scenes by their places -/

/-- The ids of the scenes are those of the places. -/
theorem ids_scenes :
    p.scenes.map (·.id) = (List.range (p.lessons + 4)).map p.stop := by
  apply List.ext_getElem
  · simp only [List.length_map, List.length_range, p.length_scenes]
  · intro place h _
    rw [List.length_map] at h
    rw [List.getElem_map, List.getElem_map, List.getElem_range]
    exact (at_of_getElem? (List.getElem?_eq_getElem h)).id_eq

/-- Each scene of the story stands at one of the places. -/
theorem exists_at (hscene : scene ∈ p.scenes) :
    ∃ place < p.lessons + 4, p.scenes[place]? = some scene ∧ p.At place scene := by
  obtain ⟨place, hlt, hplace⟩ := List.getElem_of_mem hscene
  have hget : p.scenes[place]? = some scene := hplace ▸ List.getElem?_eq_getElem hlt
  exact ⟨place, p.length_scenes ▸ hlt, hget, at_of_getElem? hget⟩

/-- Each place of the row is a scene of the story. -/
theorem hasScene_stop (hstory : p.Tells story) (hplace : place < p.lessons + 4) :
    story.HasScene (p.stop place) := by
  obtain ⟨scene, hscene, hat⟩ := hstory place hplace
  exact ⟨scene, List.mem_of_find?_eq_some hscene, hat.id_eq⟩

/-! ## No issues -/

/-- The names of a story that tells the scenes of a course are clear. -/
theorem wellNamed_of_tells (hscenes : story.scenes = p.scenes)
    (hstart : story.startingSceneId = p.stop 0) (hstory : p.Tells story) :
    story.WellNamed := by
  refine ⟨?_, ?_, fun scene hscene => ?_⟩
  · rw [hscenes, ids_scenes]
    exact List.nodup_range.map fun _ _ h => p.stop_inj.1 h
  · rw [hstart]
    exact hasScene_stop hstory (by omega)
  · obtain ⟨place, -, -, hat⟩ := exists_at (hscenes ▸ hscene)
    exact hat.nodup_choices

/-- Every scene before the endings has a choice that leads to the next place. -/
theorem At.exists_next_stop (h : p.At place scene) (hplace : place ≤ p.lessons + 1) :
    ∃ choice ∈ scene.choices, choice.nextSceneId = p.stop (place + 1) := by
  rcases Nat.lt_or_eq_of_le hplace with hearlier | rfl
  · obtain ⟨choice, hchoice, hnext, -⟩ := h.exists_onward (Nat.le_of_lt_succ hearlier)
    exact ⟨choice, hchoice, hnext⟩
  · obtain ⟨id, hsolve⟩ := h.exists_solve rfl
    exact ⟨_, hsolve, rfl⟩

/-- A story that tells the scenes of a course leads on. -/
theorem wellLinked_of_tells (hscenes : story.scenes = p.scenes)
    (hstory : p.Tells story) : story.WellLinked := by
  refine ⟨fun scene hscene choice hchoice => ?_, fun scene hscene hending => ?_, ?_⟩
  -- What a choice leads to, what is offered, and that a story ends all follow from the places.
  · obtain ⟨place, -, -, hat⟩ := exists_at (hscenes ▸ hscene)
    obtain ⟨next, hnext, hway⟩ := hat.wayOn hchoice
    rw [hnext]
    exact hasScene_stop hstory hway.next_lt
  · obtain ⟨place, -, -, hat⟩ := exists_at (hscenes ▸ hscene)
    rw [hat.isEnding_eq, decide_eq_false_iff_not] at hending
    obtain ⟨choice, hchoice, -⟩ := hat.exists_next_stop (by omega)
    exact List.ne_nil_of_mem hchoice
  · obtain ⟨scene, hscene, hat⟩ := hstory (p.lessons + 2) (by omega)
    refine ⟨scene, List.mem_of_find?_eq_some hscene, ?_⟩
    rw [hat.isEnding_eq, decide_eq_true_iff]

/-! ## Walking along the row -/

/-- Whether one can walk from the scene at one place of a story to that at another. -/
def Reaches (p : Course) (story : Activity) (place last : Nat) : Prop :=
  ∀ scene goal, story.scene? (p.stop place) = some scene →
    story.scene? (p.stop last) = some goal →
    Relation.ReflTransGen story.Way scene goal

/-- Each place is reached from itself. -/
theorem reaches_refl (p : Course) (story : Activity) (place : Nat) :
    p.Reaches story place place := by
  intro scene goal hscene hgoal
  obtain rfl : scene = goal := Option.some.inj (hscene.symm.trans hgoal)
  exact .refl

/-- A walk goes on with a choice of the scene that it has come to. -/
theorem Reaches.tail (hstory : p.Tells story) {middle last : Nat} (h : p.Reaches story place middle)
    (hmiddle : middle < p.lessons + 4)
    (hnext : ∀ scene, p.At middle scene →
      ∃ choice ∈ scene.choices, choice.nextSceneId = p.stop last) :
    p.Reaches story place last := by
  intro scene goal hscene hgoal
  obtain ⟨there, hthere, hat⟩ := hstory middle hmiddle
  obtain ⟨choice, hchoice, hlast⟩ := hnext there hat
  exact (h scene there hscene hthere).tail ⟨choice, hchoice, by rw [hlast]; exact hgoal⟩

/-- One can walk along the row, from each place to every later one up to the success ending. -/
theorem reaches_of_le (hstory : p.Tells story) {last : Nat} (hle : place ≤ last)
    (hlast : last ≤ p.lessons + 2) : p.Reaches story place last := by
  -- Each place but the endings has a choice that leads to the next one.
  induction last, hle using Nat.le_induction with
  | base => exact p.reaches_refl story place
  | succ last _ ih =>
    exact (ih (by omega)).tail hstory (by omega) fun _ hat => hat.exists_next_stop (by omega)

/-- One can walk from the opening to every place. -/
theorem reaches_of_opening (hstory : p.Tells story) (hplace : place < p.lessons + 4) :
    p.Reaches story 0 place := by
  by_cases hrow : place ≤ p.lessons + 2
  · exact reaches_of_le hstory (Nat.zero_le place) hrow
  · -- The alternative ending is reached from the gateway, which may be left.
    obtain rfl : place = p.lessons + 3 := by omega
    have hgateway : p.Reaches story 0 p.lessons :=
      reaches_of_le hstory (Nat.zero_le _) (Nat.le_add_right _ _)
    refine hgateway.tail hstory (by omega) fun _ hat => ?_
    obtain ⟨-, id, hleave⟩ := hat.gateway_choices rfl
    exact ⟨_, hleave, rfl⟩

/-- One can walk from every place to an ending. -/
theorem exists_reaches_ending (hstory : p.Tells story) (hplace : place < p.lessons + 4) :
    ∃ last, p.lessons + 2 ≤ last ∧ last < p.lessons + 4 ∧
      p.Reaches story place last := by
  by_cases hrow : place ≤ p.lessons + 2
  · exact ⟨p.lessons + 2, by omega, by omega, reaches_of_le hstory hrow (Nat.le_refl _)⟩
  · exact ⟨place, by omega, hplace, p.reaches_refl story place⟩

end Course

namespace Generator

/-- A story has no issues, whatever its generator made before, and it is generated if the generator
can count so far. It has four scenes besides its lessons, and exactly the last two are endings. It
starts with its first scene, from which choices lead to every scene, and from every scene choices
lead to an ending. -/
theorem generate_sound (g : Generator) (id title description : String) (brief : Brief)
    (hscenes : g.scenes.toNat + brief.objectives.length + 4 ≤ maxUInt32)
    (hchoices : g.choices.toNat + 3 * brief.objectives.length + 7 ≤ maxUInt32) :
    ∃ story next, g.generate id title description brief = some (story, next) ∧
      story.issues = [] ∧
      story.scenes.length = brief.objectives.length + 4 ∧
      (∀ place scene, story.scenes[place]? = some scene →
        (scene.isEnding = true ↔ brief.objectives.length + 2 ≤ place)) ∧
      (∃ first, story.scenes.head? = some first ∧ first.id = story.startingSceneId ∧
        story.startingScene? = some first ∧
        ∀ scene ∈ story.scenes, Relation.ReflTransGen story.Way first scene) ∧
      ∀ scene ∈ story.scenes, ∃ ending ∈ story.scenes, ending.isEnding = true ∧
        Relation.ReflTransGen story.Way scene ending := by
  have hfits : (g.course title brief).after.Fits := ⟨hscenes, hchoices⟩
  obtain ⟨story, next, hgenerate⟩ :
      ∃ story next, g.generate id title description brief = some (story, next) :=
    ⟨_, _, generate_eq_some_iff.2 ⟨hfits, rfl, rfl⟩⟩
  have htells := tells_of_generate hgenerate
  have hstart := startingSceneId_of_generate hgenerate
  obtain ⟨-, hstory, -⟩ := generate_eq_some_iff.1 hgenerate
  have hscenes : story.scenes = (g.course title brief).scenes := congrArg Activity.scenes hstory
  -- Each scene is the one that is found under the id of its place.
  have hfound : ∀ place scene, story.scenes[place]? = some scene →
      story.scene? ((g.course title brief).stop place) = some scene := fun place scene h => by
    unfold Activity.scene?
    rw [hscenes] at h ⊢
    exact (Course.find?_stop _ place).trans h
  have hplace : ∀ scene ∈ story.scenes, ∃ place < (g.course title brief).lessons + 4,
      story.scene? ((g.course title brief).stop place) = some scene := fun scene hscene => by
    obtain ⟨place, hplace, hget, -⟩ := Course.exists_at (hscenes ▸ hscene)
    exact ⟨place, hplace, hfound place scene (hscenes ▸ hget)⟩
  refine ⟨story, next, hgenerate, ?_, ?_, fun place scene hscene => ?_, ?_, fun scene hscene => ?_⟩
  · exact (Activity.issues_eq_nil_iff story).2
      ⟨Course.wellNamed_of_tells hscenes hstart htells, Course.wellLinked_of_tells hscenes htells⟩
  · rw [hscenes]
    exact (g.course title brief).length_scenes
  · rw [hscenes] at hscene
    rw [(Course.at_of_getElem? hscene).isEnding_eq, decide_eq_true_iff]
    rfl
  · have hfirst := hfound 0 (g.course title brief).atOpening (by rw [hscenes]; rfl)
    refine ⟨(g.course title brief).atOpening, by rw [hscenes]; rfl, hstart.symm, ?_,
      fun scene hscene => ?_⟩
    · unfold Activity.startingScene?
      rwa [hstart]
    · obtain ⟨place, hlt, hget⟩ := hplace scene hscene
      exact Course.reaches_of_opening htells hlt _ scene hfirst hget
  · obtain ⟨place, hlt, hget⟩ := hplace scene hscene
    obtain ⟨last, hlow, hhigh, hreaches⟩ := Course.exists_reaches_ending htells hlt
    obtain ⟨ending, hending, hat⟩ := htells last hhigh
    refine ⟨ending, List.mem_of_find?_eq_some hending, ?_, hreaches scene ending hget hending⟩
    rw [hat.isEnding_eq, decide_eq_true_iff]
    exact hlow

/-- The last story that fits: its last choice gets the last number that there is. -/
theorem generate_sound_lastStory :
    let g : Generator := { scenes := 40, choices := 4294967282 }
    let brief : Brief := { subject := .biology, objectives := ["", ""] }
    g.scenes.toNat + brief.objectives.length + 4 ≤ maxUInt32 ∧
    g.choices.toNat + 3 * brief.objectives.length + 7 ≤ maxUInt32 ∧
    ∃ story next, g.generate "cells" "Cells" "" brief = some (story, next) ∧
      next.choices = 4294967295 ∧ story.issues = [] ∧ story.scenes.length = 6 := by
  intro g brief
  have hscenes : g.scenes.toNat + brief.objectives.length + 4 ≤ maxUInt32 := by decide
  have hchoices : g.choices.toNat + 3 * brief.objectives.length + 7 ≤ maxUInt32 := by decide
  obtain ⟨story, next, hgenerate, hissues, hlength, -⟩ :=
    generate_sound g "cells" "Cells" "" brief hscenes hchoices
  -- What comes next is known from the counts, so the last id can be told.
  obtain ⟨-, -, rfl⟩ := generate_eq_some_iff.1 hgenerate
  exact ⟨hscenes, hchoices, story, _, hgenerate, by decide, hissues, hlength⟩

end Generator

end Gamebook
