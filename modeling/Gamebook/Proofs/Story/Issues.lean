import Gamebook.Proofs.Keyed
import Gamebook.Story.Issue

/-!
# What the issues of a story say

The errors of a story are about its names, and the warnings are about where its choices lead. Each
kind is listed here by itself, and a story is free of it exactly if the names are clear, or if the
choices lead somewhere.

## Key results

- `repeats_eq_nil_iff`: nothing is repeated in a list of distinct names
- `errors_eq` / `warnings_eq`: the issues of either kind
- `errors_eq_nil_iff` / `warnings_eq_nil_iff`: which stories have none of them
- `issues_eq_nil_iff`: which stories have no issues at all
-/

namespace Gamebook

namespace Activity

/-- Whether a story has a scene with an id. -/
def HasScene (activity : Activity) (id : String) : Prop := ∃ scene ∈ activity.scenes, scene.id = id

instance decidableHasScene (activity : Activity) (id : String) : Decidable (activity.HasScene id) :=
  inferInstanceAs (Decidable (∃ scene ∈ activity.scenes, scene.id = id))

/-- Whether the names of a story are clear: no two scenes share an id, the story starts with a
scene, and no two choices of one scene share an id. -/
structure WellNamed (activity : Activity) : Prop where
  scenes_nodup : (activity.scenes.map (·.id)).Nodup
  start : activity.HasScene activity.startingSceneId
  choices_nodup : ∀ scene ∈ activity.scenes, (scene.choices.map (·.id)).Nodup

/-- Whether a story leads on: each choice leads to a scene, each scene that is no ending has a
choice, and there is an ending. -/
structure WellLinked (activity : Activity) : Prop where
  targets : ∀ scene ∈ activity.scenes, ∀ choice ∈ scene.choices,
    activity.HasScene choice.nextSceneId
  onward : ∀ scene ∈ activity.scenes, scene.isEnding = false → scene.choices ≠ []
  ending : ∃ scene ∈ activity.scenes, scene.isEnding = true

/-- A scene of a story is found under its id, unless another one stands before it. -/
theorem HasScene.exists_scene? {activity : Activity} {id : String} (h : activity.HasScene id) :
    ∃ scene ∈ activity.scenes, activity.scene? id = some scene := by
  obtain ⟨scene, hscene, hid⟩ := h
  obtain ⟨found, hfound⟩ : ∃ found, activity.scene? id = some found :=
    Option.isSome_iff_exists.1 (List.find?_isSome.2 ⟨scene, hscene, decide_eq_true hid⟩)
  exact ⟨found, List.mem_of_find?_eq_some hfound, hfound⟩

/-! ## Repeated names -/

/-- Names that were seen matter only as far as they are looked up. -/
private theorem repeats_congr {seen other : NameSet}
    (h : ∀ id, seen.contains id = other.contains id) (ids : List String) :
    repeats seen ids = repeats other ids := by
  induction ids generalizing seen other with
  | nil => rfl
  | cons id ids ih =>
    -- Adding a name to both keeps them alike, as far as names are looked up.
    have hadd : ∀ x, (seen.add id).contains x = (other.add id).contains x := fun x => by
      rw [NameSet.contains_add, NameSet.contains_add, h]
    unfold repeats
    rw [h id, ih h, ih hadd]

/-- Nothing is repeated in a list of distinct names that were not seen before. -/
theorem repeats_eq_nil_iff (seen : NameSet) (ids : List String) :
    repeats seen ids = [] ↔ ids.Nodup ∧ ∀ id ∈ ids, seen.contains id = false := by
  induction ids generalizing seen with
  | nil => simp [repeats]
  | cons id ids ih =>
    unfold repeats
    cases hseen : seen.contains id with
    | true => simp [hseen]
    | false =>
      -- What follows must differ from this name as well.
      rw [if_neg Bool.false_ne_true, ih, List.nodup_cons]
      simp only [NameSet.contains_add, Bool.or_eq_false_iff, decide_eq_false_iff_not,
        List.forall_mem_cons]
      grind

/-- Nothing is repeated in a list of distinct names. -/
theorem repeats_empty_eq_nil_iff (ids : List String) :
    repeats Keyed.empty ids = [] ↔ ids.Nodup := by
  rw [repeats_eq_nil_iff]
  exact and_iff_left fun _ _ => rfl

/-! ## The two kinds of issues -/

/-- The issues of a story that are errors. -/
def errors (activity : Activity) : List Issue := activity.issues.filter (·.isError)

/-- The issues of a story that are only warnings. -/
def warnings (activity : Activity) : List Issue := activity.issues.filter (!·.isError)

/-- An issue that is there unless something holds stays where it is looked for. -/
private theorem filter_unless_pos (p : Issue → Bool) (c : Prop) [Decidable c] {issue : Issue}
    (h : p issue = true) :
    (if c then [] else [issue]).filter p = if c then [] else [issue] := by
  split
  · rfl
  · rw [List.filter_cons_of_pos h, List.filter_nil]

/-- An issue that is there unless something holds is left out where others are looked for. -/
private theorem filter_unless_neg (p : Issue → Bool) (c : Prop) [Decidable c] {issue : Issue}
    (h : p issue = false) : (if c then [] else [issue]).filter p = [] := by
  split
  · rfl
  · rw [List.filter_cons_of_neg (Bool.eq_false_iff.1 h), List.filter_nil]

/-- The errors among the issues of choices are the repeated ids. -/
private theorem filter_isError_choiceIssues (scenes : NameSet) (scene : String) (seen : NameSet)
    (choices : List Choice) :
    (choiceIssues scenes scene seen choices).filter (·.isError) =
      (repeats seen (choices.map (·.id))).map fun id => ⟨some scene, .repeatedChoice id⟩ := by
  -- The names seen so far may be any, since they grow from choice to choice.
  induction choices generalizing seen with
  | nil => rfl
  | cons c choices ih =>
    rw [choiceIssues, List.filter_append, List.filter_append,
      filter_unless_neg (·.isError) _ rfl, List.append_nil, ih, List.map_cons,
      repeats]
    cases hseen : seen.contains c.id with
    | true =>
      -- A name that was seen before is not seen anew.
      have hadd : ∀ x, (seen.add c.id).contains x = seen.contains x := fun x => by
        rw [NameSet.contains_add]
        by_cases hx : x = c.id <;> simp [hx, hseen]
      rw [repeats_congr hadd]
      rfl
    | false => rfl

/-- The warnings among the issues of choices are the choices that lead to no scene. -/
private theorem filter_not_isError_choiceIssues (scenes : NameSet) (scene : String)
    (seen : NameSet) (choices : List Choice) :
    (choiceIssues scenes scene seen choices).filter (!·.isError) =
      (choices.filter fun c => !scenes.contains c.nextSceneId).map fun c =>
        ⟨some scene, .unknownTarget c.id c.nextSceneId⟩ := by
  induction choices generalizing seen with
  | nil => rfl
  | cons c choices ih =>
    -- A repeated id is an error, so it is left out whether it is there or not.
    have herror : (if seen.contains c.id then [Issue.mk (some scene) (.repeatedChoice c.id)]
        else []).filter (!·.isError) = [] := by
      split <;> rfl
    rw [choiceIssues, List.filter_append, List.filter_append, herror, List.nil_append, ih,
      List.filter_cons]
    cases scenes.contains c.nextSceneId <;> rfl

/-- The errors of a scene are its repeated choices. -/
private theorem filter_isError_sceneIssues (scenes : NameSet) (scene : Scene) :
    (sceneIssues scenes scene).filter (·.isError) =
      (repeats Keyed.empty (scene.choices.map (·.id))).map fun id =>
        ⟨some scene.id, .repeatedChoice id⟩ := by
  rw [sceneIssues, List.filter_append, filter_unless_neg (·.isError) _ rfl,
    List.append_nil, filter_isError_choiceIssues]

/-- The warnings of a scene are its choices that lead to no scene, and that it has no choices. -/
private theorem filter_not_isError_sceneIssues (scenes : NameSet) (scene : Scene) :
    (sceneIssues scenes scene).filter (!·.isError) =
      ((scene.choices.filter fun c => !scenes.contains c.nextSceneId).map fun c =>
        ⟨some scene.id, .unknownTarget c.id c.nextSceneId⟩) ++
      if scene.isEnding || !scene.choices.isEmpty then [] else [⟨some scene.id, .deadEnd⟩] := by
  rw [sceneIssues, List.filter_append, filter_not_isError_choiceIssues,
    filter_unless_pos (!·.isError) _ rfl]

/-- The ids of a story are looked up among those of its scenes. -/
private theorem contains_ids (activity : Activity) (id : String) :
    (NameSet.ofNames (activity.scenes.map (·.id))).contains id =
      decide (activity.HasScene id) := by
  rw [NameSet.contains_ofNames]
  exact decide_eq_decide.2 List.mem_map

/-- The errors of a story: repeated scenes, a missing start, and repeated choices. -/
theorem errors_eq (activity : Activity) :
    activity.errors =
      (repeats Keyed.empty (activity.scenes.map (·.id))).map
        (fun id => ⟨some id, .repeatedScene id⟩) ++
      (if activity.HasScene activity.startingSceneId then []
        else [⟨none, .missingStart activity.startingSceneId⟩]) ++
      activity.scenes.flatMap fun scene =>
        (repeats Keyed.empty (scene.choices.map (·.id))).map fun id =>
          ⟨some scene.id, .repeatedChoice id⟩ := by
  have hscenes : ∀ ids : List String,
      (ids.map fun id => Issue.mk (some id) (.repeatedScene id)).filter (·.isError) =
        ids.map fun id => ⟨some id, .repeatedScene id⟩ := fun ids =>
    List.filter_eq_self.2 fun issue hissue => by
      obtain ⟨id, -, rfl⟩ := List.mem_map.1 hissue
      rfl
  unfold errors issues
  simp only [List.filter_append, List.filter_flatMap, contains_ids, decide_eq_true_eq,
    filter_isError_sceneIssues, hscenes]
  -- A missing start is an error, and a missing ending is none.
  rw [filter_unless_pos (·.isError) _ rfl, filter_unless_neg (·.isError) _ rfl,
    List.append_nil]

/-- The warnings of a story: choices that lead nowhere and dead ends, then a missing ending. -/
theorem warnings_eq (activity : Activity) :
    activity.warnings =
      (activity.scenes.flatMap fun scene =>
        ((scene.choices.filter fun c => !decide (activity.HasScene c.nextSceneId)).map fun c =>
          ⟨some scene.id, .unknownTarget c.id c.nextSceneId⟩) ++
        if scene.isEnding || !scene.choices.isEmpty then [] else [⟨some scene.id, .deadEnd⟩]) ++
      if activity.scenes.any (·.isEnding) then [] else [⟨none, .noEnding⟩] := by
  have hscenes : ∀ ids : List String,
      (ids.map fun id => Issue.mk (some id) (.repeatedScene id)).filter (!·.isError) = [] :=
    fun ids => List.filter_eq_nil_iff.2 fun issue hissue => by
      obtain ⟨id, -, rfl⟩ := List.mem_map.1 hissue
      exact Bool.false_ne_true
  unfold warnings issues
  simp only [List.filter_append, List.filter_flatMap, contains_ids, decide_eq_true_eq,
    filter_not_isError_sceneIssues, hscenes]
  rw [filter_unless_neg (!·.isError) _ rfl, filter_unless_pos (!·.isError) _ rfl,
    List.nil_append, List.nil_append]

/-! ## Stories without issues -/

/-- A story has no errors exactly if its names are clear. -/
theorem errors_eq_nil_iff (activity : Activity) :
    activity.errors = [] ↔ activity.WellNamed := by
  rw [errors_eq]
  simp only [List.append_eq_nil_iff, List.map_eq_nil_iff, List.flatMap_eq_nil_iff,
    repeats_empty_eq_nil_iff, ite_eq_left_iff, List.cons_ne_self, imp_false, Classical.not_not]
  constructor
  · rintro ⟨⟨hscenes, hstart⟩, hchoices⟩
    exact ⟨hscenes, hstart, hchoices⟩
  · rintro ⟨hscenes, hstart, hchoices⟩
    exact ⟨⟨hscenes, hstart⟩, hchoices⟩

/-- A story has no warnings exactly if it leads on. -/
theorem warnings_eq_nil_iff (activity : Activity) :
    activity.warnings = [] ↔ activity.WellLinked := by
  -- The check asks for an ending or a choice, which is the same the other way round.
  have honward : ∀ scene : Scene, (scene.isEnding || !scene.choices.isEmpty) = true ↔
      (scene.isEnding = false → scene.choices ≠ []) := fun scene => by
    cases scene.isEnding <;> simp
  rw [warnings_eq]
  simp only [List.append_eq_nil_iff, List.map_eq_nil_iff, List.flatMap_eq_nil_iff,
    List.filter_eq_nil_iff, ite_eq_left_iff, List.cons_ne_self, imp_false, Classical.not_not,
    Bool.not_eq_true', decide_eq_false_iff_not, honward, List.any_eq_true]
  constructor
  · rintro ⟨hscenes, hending⟩
    exact ⟨fun scene hscene => (hscenes scene hscene).1,
      fun scene hscene => (hscenes scene hscene).2, hending⟩
  · rintro ⟨htargets, honward, hending⟩
    exact ⟨fun scene hscene => ⟨htargets scene hscene, honward scene hscene⟩, hending⟩

/-- A story has no issues exactly if its names are clear and it leads on. -/
theorem issues_eq_nil_iff (activity : Activity) :
    activity.issues = [] ↔ activity.WellNamed ∧ activity.WellLinked := by
  rw [← errors_eq_nil_iff, ← warnings_eq_nil_iff]
  unfold errors warnings
  rw [List.filter_eq_nil_iff, List.filter_eq_nil_iff, List.eq_nil_iff_forall_not_mem]
  constructor
  · intro h
    exact ⟨fun issue hissue => absurd hissue (h issue), fun issue hissue => absurd hissue (h issue)⟩
  · rintro ⟨herrors, hwarnings⟩ issue hissue
    -- An issue is of one kind or the other.
    have herror : issue.isError = false := Bool.eq_false_iff.2 (herrors issue hissue)
    have hwarning := hwarnings issue hissue
    rw [herror] at hwarning
    exact hwarning rfl

end Activity

end Gamebook
