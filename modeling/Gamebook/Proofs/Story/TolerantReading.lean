import Gamebook.Proofs.Json.Pages
import Gamebook.Proofs.Json.TaggedTolerance
import Gamebook.Story.Activity
import Mathlib

/-!
# Tolerant reading

The text of an activity can be written in many ways. The members of any object in it may come in any
order, so that the tag of an action or a reward may stand anywhere, and further members may stand in
any object, as long as nobody asks for their names. All of these are read as the same activity.

There are two exceptions. An object that stands for a difficulty has one member, whose name is that
of the difficulty, and no other member may stand beside it. And half of a surrogate pair spells no
character, so that it may not stand in a name, nor in a string in an action or a reward, whose
members are all kept until the tag is known. Strings that a record skips may hold it.

## Key results

- `Activity.shape`: what the parts of an activity are read as
- `Activity.tolerates_form`: activities are read tolerantly
- `Activity.reading_is_tolerant`: a text that is read can be rearranged
- `Activity.not_everything_may_be_added`: what is refused when it is added
-/

namespace Gamebook

open Json (Page Rearranged Script Shape)
open Json.Script (memberOf ofInt ofString ofItems ofMembers)

/-! ## Flag values -/

/-- No flag value has parts. -/
theorem FlagValue.hasParts_of_ofJson {j : Json} {value : FlagValue} (h : ofJson j = .ok value) :
    j.hasParts = false := by
  cases j with
  | list | object => cases h
  | _ => rfl

/-- So there is nothing to rearrange in a flag value. -/
theorem FlagValue.tolerates_form (shape : Shape) : form.Tolerates shape :=
  Form.tolerates_check_any toJson (fun _ _ => hasParts_of_ofJson) shape

/-- And flag values may be kept until a tag is known. -/
theorem FlagValue.takesFlat_form : form.TakesFlat := fun _ _ h => hasParts_of_ofJson h

/-! ## Conditions, actions and rewards -/

/-- Conditions are records of values without parts. -/
def Condition.shape : Shape := .ofFields fields [.free, .free, .free, .free]

/-- Conditions are read tolerantly. -/
theorem Condition.tolerates_form : form.Tolerates shape := by
  refine (Form.tolerates_record "SceneCondition" ?_).map _ _
  exact ⟨(Form.tolerates_text _).map _ _, Form.tolerates_text _, FlagValue.tolerates_form _,
    (Form.tolerates_text _).map _ _, trivial⟩

namespace Action

/-- Actions are told apart by their tags. -/
def shape : Shape := .ofVariants variants

/-- The fields of an action hold values without parts. -/
private theorem takesFlat_fields : ∀ v ∈ variants, v.fields.All Form.TakesFlat := by
  have htext := Form.takesFlat_text
  have hmessage : messageField.form.TakesFlat := htext.optional
  have htarget : targetFields.All Form.TakesFlat := ⟨htext, hmessage, trivial⟩
  have hvalue : ∀ {α : Type} {form : Form α}, form.TakesFlat →
      (valueFields form).All Form.TakesFlat :=
    fun hform => ⟨htext, hform, hmessage, trivial⟩
  intro v hv
  -- Three of the six kinds have a target only, two have a value as well, and points have no target.
  simp only [variants, List.mem_cons, List.not_mem_nil, or_false] at hv
  rcases hv with rfl | rfl | rfl | rfl | rfl | rfl
  · exact htarget
  · exact htarget
  · exact hvalue FlagValue.takesFlat_form
  · exact hvalue ((Form.takesFlat_whole _ _ _).map _ _)
  · exact ⟨(Form.takesFlat_whole _ _ _).map _ _, hmessage, trivial⟩
  · exact htarget

/-- Actions are read tolerantly. -/
theorem tolerates_form : form.Tolerates shape :=
  Form.tolerates_tagged "GameAction" toJson takesFlat_fields

end Action

namespace Reward

/-- Rewards are told apart by their tags. -/
def shape : Shape := .ofVariants variants

/-- Rewards are read tolerantly. -/
theorem tolerates_form : form.Tolerates shape := by
  refine Form.tolerates_tagged "Reward" toJson fun v hv => ?_
  simp only [variants, List.mem_cons, List.not_mem_nil, or_false] at hv
  rcases hv with rfl | rfl
  · exact ⟨Form.takesFlat_text, trivial⟩
  · exact ⟨(Form.takesFlat_whole _ _ _).map _ _, trivial⟩

end Reward

/-! ## Scenes -/

/-- A difficulty is a name, or an object that stands for one. -/
theorem Difficulty.tolerates_form : form.Tolerates .named := Form.tolerates_choice cases name

def Multimedia.shape : Shape := .ofFields fields [.free, .free]

/-- Multimedia resources are read tolerantly. -/
theorem Multimedia.tolerates_form : form.Tolerates shape := by
  refine (Form.tolerates_record "Multimedia" ?_).map _ _
  exact ⟨Form.tolerates_text _, Form.tolerates_text _, trivial⟩

def Lesson.shape : Shape := .ofFields fields [.free, .free, .list .free, Multimedia.shape]

/-- Lessons are read tolerantly. -/
theorem Lesson.tolerates_form : form.Tolerates shape := by
  refine (Form.tolerates_record "EducationalContent" ?_).map _ _
  exact ⟨Form.tolerates_text _, Form.tolerates_text _, (Form.tolerates_text _).list,
    Multimedia.tolerates_form.optional, trivial⟩

def Choice.shape : Shape :=
  .ofFields fields [.free, .free, .free, .free, .list Condition.shape, .list Action.shape, .free,
    .free, .named, .free]

/-- Choices are read tolerantly. -/
theorem Choice.tolerates_form : form.Tolerates shape := by
  have htext := Form.tolerates_text .free
  refine (Form.tolerates_record "Choice" ?_).map _ _
  exact ⟨htext, htext, htext.optional, htext, Condition.tolerates_form.list,
    Action.tolerates_form.list, (Form.tolerates_uint32 _).optional, htext.optional,
    Difficulty.tolerates_form.optional, htext.optional, trivial⟩

def Scene.shape : Shape :=
  .ofFields fields [.free, .free, .free, .free, .list Choice.shape, .list Condition.shape, .free,
    .list Reward.shape, Lesson.shape]

/-- Scenes are read tolerantly. -/
theorem Scene.tolerates_form : form.Tolerates shape := by
  have htext := Form.tolerates_text .free
  refine (Form.tolerates_record "Scene" ?_).map _ _
  exact ⟨htext, htext, htext, htext, Choice.tolerates_form.list, Condition.tolerates_form.list,
    Form.tolerates_bool _, Reward.tolerates_form.list, Lesson.tolerates_form.optional, trivial⟩

/-! ## Activities -/

namespace Activity

/-- What the parts of an activity are read as. -/
def shape : Shape :=
  .ofFields fields [.free, .free, .free, .free, .free, .named, .free, .list Scene.shape, .free,
    .list .free, .free, .free, .free]

/-- Activities are read tolerantly. -/
theorem tolerates_form : form.Tolerates shape := by
  have htext := Form.tolerates_text .free
  refine (Form.tolerates_record "NarrativeActivity" ?_).map _ _
  exact ⟨htext, htext, htext, htext, htext, Difficulty.tolerates_form, htext,
    Scene.tolerates_form.list, (Form.tolerates_uint32 _).optional, htext.list,
    Form.tolerates_uint32 _, htext.optional, Form.tolerates_bool _, trivial⟩

/-- Every text that is read as an activity is the text of a page, and however the page is
rearranged, its text is read as the same activity. -/
theorem reading_is_tolerant {text : String} {activity : Activity}
    (h : form.parse text = .ok activity) :
    (∃ page : Page, text = page.text) ∧
      ∀ page page' : Page, text = page.text → Rearranged shape page.it page'.it →
        form.parse page'.text = .ok activity :=
  ⟨tolerates_form.page_of_parse h, fun _ _ htext hpage =>
    tolerates_form.parse_of_rearranged hpage (htext ▸ h)⟩

/-- A page that tells of a cellar with a badge in it. The members of the reward may be given in any
way, and more members may stand before those of the activity. -/
def cellarPage (more reward : List Script.Member) : Page :=
  .tight <| ofMembers <| more ++
    [memberOf "id" (ofString "c"), memberOf "title" (ofString "Down"),
      memberOf "startingSceneId" (ofString "s"),
      memberOf "availableScenes" (ofItems [ofMembers
        [memberOf "id" (ofString "s"), memberOf "title" (ofString "Cellar"),
          memberOf "description" (ofString ""),
          memberOf "rewards" (ofItems [ofMembers reward])]])]

/-- The story on the page. -/
def cellarStory : Activity where
  id := "c"
  title := "Down"
  startingSceneId := "s"
  scenes := [{ id := "s", title := "Cellar", description := "", rewards := [.badge "Key"] }]

def tagMember : Script.Member := memberOf "type" (ofString "badge")

def nameMember : Script.Member := memberOf "name" (ofString "Key")

def noteMember : Script.Member := memberOf "note" (ofInt (-1))

def langMember : Script.Member := memberOf "lang" (ofString "en")

/-- A note is put into the reward and its tag behind all the rest, and then the language is put into
the activity. -/
private theorem rearranged_cellarPage :
    Rearranged shape (cellarPage [] [tagMember, nameMember]).it
      (cellarPage [langMember] [noteMember, nameMember, tagMember]).it := by
  have hreward : Json.Change shape (cellarPage [] [tagMember, nameMember]).it
      (cellarPage [] [noteMember, nameMember, tagMember]).it := by
    have hnote : noteMember.name? = some "note" := by cbv
    -- Down to the scene, to its rewards, and to the one that is there.
    refine .of_value [_, _, _] [] (.of_only (.of_value [_, _, _] [] (.of_only ?_)))
    refine .add (.cons _ (.swap _ _ _)) ?_ (fun _ => ⟨"note", ?_, hnote⟩) rfl
      fun _ => Json.Token.isSome_value?_integer rfl rfl ?_
    · cbv
      intro h
      cases h
    · cbv
      exact (by decide : "note" ∉ ["type", "name"])
    · cbv
  have hactivity : Json.Change shape (cellarPage [] [noteMember, nameMember, tagMember]).it
      (cellarPage [langMember] [noteMember, nameMember, tagMember]).it := by
    have hlang : langMember.name? = some "lang" := by cbv
    refine .add (.refl _) (fun h => by cases h) (fun _ => ⟨"lang", ?_, hlang⟩) rfl
      (fun h => by cases h)
    decide
  exact .tail (.tail .refl hreward) hactivity

/-- The page as it stands is read as the story on it. -/
private theorem parse_cellarPage :
    form.parse (cellarPage [] [tagMember, nameMember]).text = .ok cellarStory := by cbv

/-- The badge is found in the cellar wherever its tag stands. -/
theorem reading_is_tolerant_cellarPage :
    form.parse (cellarPage [] [tagMember, nameMember]).text = .ok cellarStory ∧
      form.parse (cellarPage [langMember] [noteMember, nameMember, tagMember]).text =
        .ok cellarStory :=
  ⟨parse_cellarPage, (reading_is_tolerant parse_cellarPage).2 _ _ rfl rearranged_cellarPage⟩

/-- A page with an object in the place of the difficulty. -/
def difficultyPage (difficulty : List Script.Member) : Page :=
  .tight <| ofMembers
    [memberOf "id" (ofString "i"), memberOf "title" (ofString "t"),
      memberOf "difficulty" (ofMembers difficulty), memberOf "startingSceneId" (ofString "s"),
      memberOf "availableScenes" (ofItems [])]

def hardMember : Script.Member := memberOf "hard" (.token .null)

/-- The first half of a pair of words. -/
def half : List Json.Letter := [.word 'd' '8' '0' '0' 0xd800 (by decide)]

set_option maxRecDepth 2000 in
/-- Nothing may stand beside the name of a difficulty in an object that stands for one, and half a
pair may stand neither in a name nor in a reward. A record skips it in a string. -/
theorem not_everything_may_be_added :
    (form.parse (difficultyPage [hardMember]).text =
        .ok { id := "i", title := "t", difficulty := .hard, startingSceneId := "s", scenes := [] } ∧
      form.parse (difficultyPage [hardMember, noteMember]).text =
        .error (.breach .valueExpected)) ∧
    form.parse (cellarPage [] [tagMember, nameMember]).text = .ok cellarStory ∧
    form.parse (cellarPage []
      [tagMember, nameMember, memberOf "note" (.token (.string half))]).text =
      .error (.breach .halfPair) ∧
    form.parse (cellarPage [(.tight half, .tight (ofInt 1))] [tagMember, nameMember]).text =
      .error (.breach .halfPair) ∧
    form.parse (cellarPage [memberOf "lang" (.token (.string half))] [tagMember, nameMember]).text =
      .ok cellarStory := by
  refine ⟨⟨?_, ?_⟩, parse_cellarPage, ?_, ?_, ?_⟩
  · cbv
  · cbv
  · cbv
  · cbv
  · cbv

end Activity

end Gamebook
