import Gamebook.Proofs.CommandLine.PausedPlay
import Gamebook.Proofs.Play.Completion
import Gamebook.Proofs.Story.Issues
import Mathlib

/-!
# What checking a story tells

The check of a story finds what is wrong with it and nothing else: it is free of errors exactly if
the names of the story are clear, and free of warnings exactly if the story leads on. Each scene and
each choice that repeats an id is reported once, so the errors can be counted without making the
check, and the command succeeds exactly if there are none.

## Key results

- `length_repeats`: each name is reported as often as it is repeated
- `countP_isError_issues`: the number of errors of a story
- `code_run_check`: the exit code of the command
- `check_tells_all`: what the check says of every story
-/

namespace Gamebook

namespace Activity

/-! ## Counting errors -/

/-- A name is repeated, or it is one of the distinct names that were not seen before. -/
private theorem length_repeats_add_card (seen : NameSet) (ids : List String) :
    (repeats seen ids).length + (ids.toFinset.filter fun id => seen.contains id = false).card =
      ids.length := by
  induction ids generalizing seen with
  | nil => rfl
  | cons id ids ih =>
    unfold repeats
    rw [List.toFinset_cons, Finset.filter_insert]
    -- A name that is seen again counts as a repeat, and a new one as a member.
    cases hseen : seen.contains id with
    | true =>
      have hrest := ih seen
      rw [if_pos rfl, if_neg (by decide), List.length_cons, List.length_cons]
      omega
    | false =>
      have hrest := ih (seen.add id)
      -- The name itself is the only one that is seen now and was not seen before.
      have hnew : insert id (ids.toFinset.filter fun x => seen.contains x = false) =
          insert id (ids.toFinset.filter fun x => (seen.add id).contains x = false) := by
        ext x
        by_cases hx : x = id <;> simp [NameSet.contains_add, hx]
      have hfresh : id ∉ ids.toFinset.filter fun x => (seen.add id).contains x = false := by
        simp [NameSet.contains_add]
      rw [if_neg Bool.false_ne_true, if_pos rfl, hnew, Finset.card_insert_of_notMem hfresh,
        List.length_cons]
      omega

/-- Each name is reported as often as it is repeated. -/
theorem length_repeats (ids : List String) : (repeats Keyed.empty ids).length = surplus ids := by
  have hall : (ids.toFinset.filter fun id => (Keyed.empty : NameSet).contains id = false) =
      ids.toFinset := Finset.filter_true_of_mem fun _ _ => rfl
  have hcount := length_repeats_add_card Keyed.empty ids
  have hsurplus := card_add_surplus ids
  rw [hall] at hcount
  omega

/-- The errors of a story are the scenes that repeat an id, a missing start, and the choices that
repeat an id in their scene. -/
theorem countP_isError_issues (activity : Activity) :
    activity.issues.countP (·.isError) =
      surplus (activity.scenes.map (·.id)) +
      (if activity.HasScene activity.startingSceneId then 0 else 1) +
      (activity.scenes.map fun scene => surplus (scene.choices.map (·.id))).sum := by
  have herrors : activity.issues.countP (·.isError) = activity.errors.length :=
    List.countP_eq_length_filter
  rw [herrors, errors_eq]
  simp only [List.length_append, List.length_map, List.length_flatMap, length_repeats]
  split <;> rfl

/-- There are no errors just when the names are in order. -/
theorem countP_isError_issues_eq_zero_iff (activity : Activity) :
    activity.issues.countP (·.isError) = 0 ↔ activity.WellNamed := by
  rw [← errors_eq_nil_iff, List.countP_eq_length_filter, List.length_eq_zero_iff]
  rfl

/-! ## The command -/

/-- A check fails exactly if there are errors, and writes no file. -/
theorem failure_checkReport (activity : Activity) :
    activity.checkReport.failure.isSome = true ↔ ¬ activity.WellNamed := by
  rw [← countP_isError_issues_eq_zero_iff]
  unfold checkReport
  by_cases hnone : activity.issues.countP (·.isError) = 0 <;> simp [hnone]

/-- Checking writes no document. -/
theorem document_checkReport (activity : Activity) : activity.checkReport.document = none := by
  unfold checkReport
  dsimp only
  split <;> rfl

end Activity

/-- A run that writes no file ends as its report says. -/
theorem Exit.code_ofReport (directory : Directory) {report : Report} (h : report.document = none) :
    (ofReport directory report).code = report.code := by
  obtain ⟨output, notes, failure, document⟩ := report
  obtain rfl : document = none := h
  rfl

/-- The command that checks a story succeeds exactly if the names of the story are clear. -/
theorem Exit.code_run_check {directory : Directory} {surroundings : Surroundings}
    {words : List String} {file : String} {activity : Activity}
    (hwords : Command.ofWords words = .ok (.check file))
    (hfile : (setting directory surroundings (.check file)).activity file = .ok activity) :
    (run directory surroundings words).code = 0 ↔ activity.WellNamed := by
  have hreport : (Command.check file).report (setting directory surroundings (.check file)) =
      activity.checkReport := by
    show Report.ofExcept (Activity.checkReport <$> _) = _
    rw [hfile]
    rfl
  have hrun : run directory surroundings words = ofReport directory activity.checkReport := by
    unfold run
    rw [hwords, ← hreport]
  have hfailure := activity.failure_checkReport
  rw [hrun, code_ofReport directory activity.document_checkReport]
  -- The code is that of the failure, and a report without one has the code zero.
  unfold Report.code
  split
  next hfails => exact iff_of_false (by decide) (hfailure.1 hfails)
  next hholds => exact iff_of_true rfl (not_not.1 fun h => hholds (hfailure.2 h))

namespace Activity

/-- What the check says of a story is so, and it says all. There is no error among the issues
exactly if no two scenes share an id, the story starts with one of them, and no two choices of one
scene share an id; and the command that checks a file with the story succeeds exactly then. There is
no warning exactly if each choice leads to a scene, each scene that is no ending has a choice, and
some scene is an ending. There are as many errors as scenes that repeat an id, one more if the start
is missing, and as many as choices that repeat an id in their scene. -/
theorem check_tells_all (activity : Activity) :
    ((∀ issue ∈ activity.issues, issue.isError = false) ↔ activity.WellNamed) ∧
    (∀ (directory : Directory) (surroundings : Surroundings) (words : List String) (file : String),
      Command.ofWords words = .ok (.check file) →
      (Exit.setting directory surroundings (.check file)).activity file = .ok activity →
      ((Exit.run directory surroundings words).code = 0 ↔ activity.WellNamed)) ∧
    ((∀ issue ∈ activity.issues, issue.isError = true) ↔ activity.WellLinked) ∧
    activity.issues.countP (·.isError) =
      (activity.scenes.length - (activity.scenes.map (·.id)).toFinset.card) +
      (if activity.HasScene activity.startingSceneId then 0 else 1) +
      (activity.scenes.map fun scene =>
        scene.choices.length - (scene.choices.map (·.id)).toFinset.card).sum := by
  refine ⟨?_, fun directory surroundings words file hwords hfile =>
    Exit.code_run_check hwords hfile, ?_, ?_⟩
  · rw [← errors_eq_nil_iff]
    unfold errors
    simp only [List.filter_eq_nil_iff, Bool.not_eq_true]
  · rw [← warnings_eq_nil_iff]
    unfold warnings
    simp only [List.filter_eq_nil_iff, Bool.not_eq_true, Bool.not_eq_false']
  · rw [countP_isError_issues]
    unfold surplus
    simp only [List.length_map]

/-! ### Two stories in a file -/

/-- A story that starts nowhere, and uses the id of a scene and that of a choice twice. -/
def mazeStory : Activity where
  id := "maze"
  title := "Maze"
  startingSceneId := "door"
  scenes :=
    [{ id := "hall", title := "Hall", description := ""
       choices :=
        [{ id := "on", text := "Go on", nextSceneId := "hall" },
         { id := "on", text := "Go on", nextSceneId := "pit" }] },
     { id := "hall", title := "Hall", description := "", isEnding := true }]

/-- A file with a story, and nothing else. -/
def storyFile (activity : Activity) : Directory where
  files := [(["story.json"], form.pretty activity)]

/-- Nobody types anything. -/
def quiet : Surroundings where
  newId := ""
  started := .epoch
  clock _ := .epoch
  typed := ""

/-- The story in the file is read. -/
theorem activity_storyFile {activity : Activity} (hplain : activity.Plain)
    (hproper : activity.Proper) :
    (Exit.setting (storyFile activity) quiet (.check "story.json")).activity "story.json" =
      .ok activity := by
  have hfind : (storyFile activity).find "story.json" =
      .ok (["story.json"], .file (form.pretty activity)) := by
    -- The path has one part, which is the file of the directory.
    have hparts : Text.splitAt '/' "story.json" = ["story.json"] := by decide
    have hshort : ¬ maxPathBytes < "story.json".utf8ByteSize := by decide
    unfold Directory.find
    rw [hparts, if_neg hshort]
    rfl
  have hread : (Exit.setting (storyFile activity) quiet (.check "story.json")).read "story.json" =
      .ok (form.pretty activity) := by
    simp [Exit.setting, Directory.device?, Directory.read, hfind]
  exact Setting.parsed_ok hread (Form.parse_pretty (readsBack_form 120 hplain hproper)) _

/-- The maze has three errors and fails the check, and the stroll passes it. -/
theorem check_tells_all_mazeStory :
    let words := ["check", "story.json"]
    Command.ofWords words = .ok (.check "story.json") ∧
    mazeStory.issues.countP (·.isError) = 3 ∧
    (Exit.run (storyFile mazeStory) quiet words).code ≠ 0 ∧
    (Exit.run (storyFile PlayOptions.strollStory) quiet words).code = 0 := by
  intro words
  have hwords : Command.ofWords words = .ok (.check "story.json") := by decide
  have hproper : mazeStory.Proper ∧ PlayOptions.strollStory.Proper := by
    unfold Proper
    decide
  obtain ⟨-, hmaze, -, herrors⟩ := check_tells_all mazeStory
  obtain ⟨hstroll, hrun, -⟩ := check_tells_all PlayOptions.strollStory
  refine ⟨hwords, herrors.trans (by decide), fun hcode => ?_, ?_⟩
  -- The code would say that the story is well named, but its opening is missing.
  · have hnamed := (hmaze (storyFile mazeStory) quiet words "story.json" hwords
      (activity_storyFile ⟨by decide, by decide⟩ hproper.1)).1 hcode
    exact absurd hnamed.start (by decide)
  · exact (hrun (storyFile PlayOptions.strollStory) quiet words "story.json" hwords
      (activity_storyFile ⟨by decide, by decide⟩ hproper.2)).2 (hstroll.1 (by decide))

end Activity

end Gamebook
