import Gamebook.Proofs.Json.TaggedBack
import Gamebook.Proofs.Json.Yields
import Gamebook.Proofs.Story.Flags
import Gamebook.Story.Activity

/-!
# The text of an activity

An activity is written as text and read back from it. Nothing is lost on the way, as long as no
condition and no flag holds a double and nothing that is not known goes by a known name: the case
of a kind or an operator is told by its name alone. No activity that is read from a text has such
a name.

## Key results

- `Aspect.isProper`, `Operator.isProper`: whether what is not known has a name of its own
- `Activity.Proper`, `Activity.Plain`: what the text of an activity is sure to keep
- `Action.readsBack_form`, `Reward.readsBack_form`: actions and rewards, told apart by their tags
- `Activity.readsBack_form`: plain and proper activities are read back
- `Activity.proper_of_yields`: an activity that is read is proper
- `Activity.parse_pretty_activity`: so reading undoes writing
-/

namespace Gamebook

/-! ## Names of what is not known -/

namespace Aspect

/-- The aspects that are known. -/
def known : List Aspect := [item, flag, relationship, visited, score]

/-- Whether an aspect that is not known has a name of its own. -/
def isProper : Aspect → Bool
  | unrecognized name => known.all (·.name ≠ name)
  | _ => true

/-- A name that none of the known ones has stands for itself. -/
private theorem ofName_other {name : String} (h : ∀ a ∈ known, a.name ≠ name) :
    ofName name = unrecognized name := by
  simp only [known, List.forall_mem_cons, Aspect.name] at h
  simp [ofName, Ne.symm, h]

/-- Every proper aspect is told by its name. -/
theorem ofName_name {aspect : Aspect} (h : aspect.isProper = true) :
    ofName aspect.name = aspect := by
  cases aspect with
  | unrecognized name =>
    exact ofName_other fun a ha => of_decide_eq_true (List.all_eq_true.1 h a ha)
  | _ => rfl

/-- An aspect that is told by a name is proper. -/
theorem isProper_ofName (name : String) : (ofName name).isProper = true := by
  -- A known name gives a known aspect, and those are proper all the same.
  by_cases hknown : ∃ a ∈ known, a.name = name
  · obtain ⟨a, ha, rfl⟩ := hknown
    have hall : ∀ a ∈ known, (ofName a.name).isProper = true := by decide
    exact hall a ha
  · have hother : ∀ a ∈ known, a.name ≠ name := fun a ha heq => hknown ⟨a, ha, heq⟩
    rw [ofName_other hother]
    exact List.all_eq_true.2 fun a ha => decide_eq_true (hother a ha)

end Aspect

namespace Operator

/-- The operators that are known. -/
def known : List Operator := [eq, ne, gt, lt, ge, le]

/-- Whether an operator that is not known has a symbol of its own. -/
def isProper : Operator → Bool
  | unrecognized symbol => known.all (·.symbol ≠ symbol)
  | _ => true

/-- A symbol that none of the known ones has stands for itself. -/
private theorem ofSymbol_other {symbol : String} (h : ∀ a ∈ known, a.symbol ≠ symbol) :
    ofSymbol symbol = unrecognized symbol := by
  simp only [known, List.forall_mem_cons, Operator.symbol] at h
  simp [ofSymbol, Ne.symm, h]

/-- Every proper operator is told by its symbol. -/
theorem ofSymbol_symbol {operator : Operator} (h : operator.isProper = true) :
    ofSymbol operator.symbol = operator := by
  cases operator with
  | unrecognized symbol =>
    exact ofSymbol_other fun a ha => of_decide_eq_true (List.all_eq_true.1 h a ha)
  | _ => rfl

/-- An operator that is told by a symbol is proper. -/
theorem isProper_ofSymbol (symbol : String) : (ofSymbol symbol).isProper = true := by
  by_cases hknown : ∃ a ∈ known, a.symbol = symbol
  · obtain ⟨a, ha, rfl⟩ := hknown
    have hall : ∀ a ∈ known, (ofSymbol a.symbol).isProper = true := by decide
    exact hall a ha
  · have hother : ∀ a ∈ known, a.symbol ≠ symbol := fun a ha heq => hknown ⟨a, ha, heq⟩
    rw [ofSymbol_other hother]
    exact List.all_eq_true.2 fun a ha => decide_eq_true (hother a ha)

end Operator

/-! ## The parts of an activity -/

/-- Whether what a condition looks at, and how it compares, is known or has a name of its own. -/
def Condition.isProper (c : Condition) : Bool := c.aspect.isProper && c.operator.isProper

/-- Whether an action sets no flag to a double. -/
def Action.isPlain (a : Action) : Bool :=
  match a.effect with
  | .setFlag _ value => !value.isFloat
  | _ => true

/-- The conditions of a scene and of its choices. -/
def Scene.allConditions (scene : Scene) : List Condition :=
  scene.conditions ++ scene.choices.flatMap (·.conditions)

/-- The actions of the choices of a scene. -/
def Scene.allActions (scene : Scene) : List Action := scene.choices.flatMap (·.actions)

namespace Activity

/-- The conditions of all scenes and choices. -/
def allConditions (activity : Activity) : List Condition :=
  activity.scenes.flatMap Scene.allConditions

/-- The actions of all choices. -/
def allActions (activity : Activity) : List Action := activity.scenes.flatMap Scene.allActions

/-- Whether nothing that is not known goes by a known name. -/
def Proper (activity : Activity) : Prop := ∀ c ∈ activity.allConditions, c.isProper = true

/-- Whether no condition and no flag holds a double. -/
structure Plain (activity : Activity) : Prop where
  conditions : ∀ c ∈ activity.allConditions, c.value.isFloat = false
  actions : ∀ a ∈ activity.allActions, a.isPlain = true

end Activity

/-! ## Reading back the parts -/

/-- Conditions are read back, unless they compare with a double or go by a name that is not
theirs. -/
theorem Condition.readsBack_form (depth : Nat) {c : Condition} (hproper : c.isProper = true)
    (hvalue : c.value.isFloat = false) : Condition.form.ReadsBack (depth + 1) c := by
  obtain ⟨haspect, hoperator⟩ := Bool.and_eq_true_iff.1 hproper
  refine Form.ReadsBack.map (Form.readsBack_record "SceneCondition" (by decide) ?_) rfl
  exact Fields.readsBack_required
      ((Form.readsBack_text depth _).map (Aspect.ofName_name haspect)) <|
    Fields.readsBack_required (Form.readsBack_text depth _) <|
    Fields.readsBack_required (FlagValue.readsBack_form depth _ hvalue) <|
    Fields.readsBack_required
      ((Form.readsBack_text depth _).map (Operator.ofSymbol_symbol hoperator)) trivial

/-- A case is found by its tag, if no other case has it. -/
theorem Variant.find_tag {α : Type} {variants : List (Variant α)}
    (htags : (variants.map Variant.tag).Nodup) {v : Variant α} (hv : v ∈ variants) :
    Variant.find variants v.tag = .ok v := by
  have hfound : variants.find? (·.tag = v.tag) = some v := by
    induction variants with
    | nil => cases hv
    | cons w variants ih =>
      obtain ⟨hnew, htags⟩ := List.nodup_cons.1 htags
      rcases List.mem_cons.1 hv with rfl | hv
      · exact List.find?_cons_of_pos (by simp)
      -- A variant behind the first has another tag than that.
      · have hne : w.tag ≠ v.tag := fun heq => hnew (heq ▸ List.mem_map_of_mem hv)
        rw [List.find?_cons_of_neg (by simpa using hne)]
        exact ih htags hv
  unfold Variant.find
  rw [hfound]
  rfl

namespace Action

/-- Every action has a tag of its own. -/
private theorem nodup_tags : (variants.map Variant.tag).Nodup := by decide

/-- A message is taken back, whether it is there or not. -/
private theorem takesBack_message (depth : Nat) (message : Option String) :
    (Fields.cons messageField .nil).TakesBack depth (message, ()) :=
  Fields.takesBack_optional (fun _ => rfl) (fun s _ => Form.takesBack_text depth s) trivial

/-- So are the fields of an action on a target. -/
private theorem takesBack_targetFields (depth : Nat) (target : String) (message : Option String) :
    targetFields.TakesBack depth (target, message, ()) :=
  Fields.takesBack_required (Form.takesBack_text depth target) (takesBack_message depth message)

/-- And those of an action with a value, if the value is taken back. -/
private theorem takesBack_valueFields {α : Type} {form : Form α} {depth : Nat} {a : α}
    (h : form.TakesBack depth a) (target : String) (message : Option String) :
    (valueFields form).TakesBack depth (target, a, message, ()) :=
  Fields.takesBack_required (Form.takesBack_text depth target) <|
    Fields.takesBack_required h (takesBack_message depth message)

/-- Actions are read back, unless they set a flag to a double. -/
theorem readsBack_form (depth : Nat) {a : Action} (h : a.isPlain = true) :
    form.ReadsBack (depth + 1) a := by
  obtain ⟨effect, message⟩ := a
  -- Every case of an action takes its own fields back.
  have hcase : ∀ (i : Nat) (hi : i < variants.length) (row : Row variants[i].types),
      toJson (variants[i].make row) =
        taggedObject variants[i].tag (variants[i].fields.members row) →
      (Form.tagName :: variants[i].fields.names).Nodup →
      variants[i].fields.TakesBack depth row →
      form.ReadsBack (depth + 1) (variants[i].make row) := fun i hi row hjson hnames htakes =>
    Form.readsBack_tagged "GameAction" row
      (Variant.find_tag nodup_tags (List.getElem_mem hi)) hjson hnames htakes
  cases effect with
  | addItem item =>
    exact hcase 0 (by decide) (item, message, ()) rfl (by decide)
      (takesBack_targetFields depth item message)
  | removeItem item =>
    exact hcase 1 (by decide) (item, message, ()) rfl (by decide)
      (takesBack_targetFields depth item message)
  | setFlag flag value =>
    have hvalue : value.isFloat = false := by simpa [isPlain] using h
    exact hcase 2 (by decide) (flag, value, message, ()) rfl (by decide)
      (takesBack_valueFields ⟨FlagValue.readsBack_any_toJson depth value hvalue,
        FlagValue.ofJson_toJson value hvalue⟩ flag message)
  | modifyRelationship character difference =>
    exact hcase 3 (by decide) (character, difference, message, ()) rfl (by decide)
      (takesBack_valueFields (Form.takesBack_int64 depth difference) character message)
  | addPoints points =>
    exact hcase 4 (by decide) (points, message, ()) rfl (by decide)
      (Fields.takesBack_required (Form.takesBack_uint32 depth points)
        (takesBack_message depth message))
  | unlockScene scene =>
    exact hcase 5 (by decide) (scene, message, ()) rfl (by decide)
      (takesBack_targetFields depth scene message)

end Action

namespace Reward

/-- Rewards are read back. -/
theorem readsBack_form (depth : Nat) (reward : Reward) : form.ReadsBack (depth + 1) reward := by
  have htags : (variants.map Variant.tag).Nodup := by decide
  cases reward with
  | badge name =>
    exact Form.readsBack_tagged "Reward" (v := variants[0]) (name, ())
      (Variant.find_tag htags (List.getElem_mem _)) rfl (by decide)
      (Fields.takesBack_required (Form.takesBack_text depth name) trivial)
  | xp amount =>
    exact Form.readsBack_tagged "Reward" (v := variants[1]) (amount, ())
      (Variant.find_tag htags (List.getElem_mem _)) rfl (by decide)
      (Fields.takesBack_required (Form.takesBack_uint32 depth amount) trivial)

end Reward

/-- Difficulties are read back. -/
theorem Difficulty.readsBack_form (depth : Nat) (d : Difficulty) :
    Difficulty.form.ReadsBack depth d :=
  Form.readsBack_choice depth (by cases d <;> decide)

/-- Multimedia resources are read back. -/
theorem Multimedia.readsBack_form (depth : Nat) (m : Multimedia) :
    Multimedia.form.ReadsBack (depth + 1) m := by
  refine Form.ReadsBack.map (Form.readsBack_record "Multimedia" (by decide) ?_) rfl
  exact Fields.readsBack_required (Form.readsBack_text depth _) <|
    Fields.readsBack_required (Form.readsBack_text depth _) trivial

/-- Lessons are read back. -/
theorem Lesson.readsBack_form (depth : Nat) (lesson : Lesson) :
    Lesson.form.ReadsBack (depth + 2) lesson := by
  refine Form.ReadsBack.map (Form.readsBack_record "EducationalContent" (by decide) ?_) rfl
  exact Fields.readsBack_required (Form.readsBack_text _ _) <|
    Fields.readsBack_required (Form.readsBack_text _ _) <|
    Fields.readsBack_listField (fun s _ => Form.readsBack_text depth s) <|
    Fields.readsBack_optional (fun _ => rfl) (fun m _ => Multimedia.readsBack_form depth m) trivial

/-- Choices are read back if their conditions and actions are. -/
theorem Choice.readsBack_form (depth : Nat) {choice : Choice}
    (hconditions : ∀ c ∈ choice.conditions, c.isProper = true ∧ c.value.isFloat = false)
    (hactions : ∀ a ∈ choice.actions, a.isPlain = true) :
    Choice.form.ReadsBack (depth + 3) choice := by
  refine Form.ReadsBack.map (Form.readsBack_record "Choice" (by decide) ?_) rfl
  exact Fields.readsBack_required (Form.readsBack_text _ _) <|
    Fields.readsBack_required (Form.readsBack_text _ _) <|
    Fields.readsBack_optional (fun _ => rfl) (fun s _ => Form.readsBack_text _ s) <|
    Fields.readsBack_required (Form.readsBack_text _ _) <|
    Fields.readsBack_listField (fun c hc =>
      Condition.readsBack_form depth (hconditions c hc).1 (hconditions c hc).2) <|
    Fields.readsBack_listField (fun a ha => Action.readsBack_form depth (hactions a ha)) <|
    Fields.readsBack_optional (fun _ => rfl) (fun n _ => Form.readsBack_uint32 _ n) <|
    Fields.readsBack_optional (fun _ => rfl) (fun s _ => Form.readsBack_text _ s) <|
    Fields.readsBack_optional (fun _ => rfl) (fun d _ => Difficulty.readsBack_form _ d) <|
    Fields.readsBack_optional (fun _ => rfl) (fun s _ => Form.readsBack_text _ s) trivial

/-- Scenes are read back if their conditions and actions are. -/
theorem Scene.readsBack_form (depth : Nat) {scene : Scene}
    (hconditions : ∀ c ∈ scene.allConditions, c.isProper = true ∧ c.value.isFloat = false)
    (hactions : ∀ a ∈ scene.allActions, a.isPlain = true) :
    Scene.form.ReadsBack (depth + 5) scene := by
  have hchoices : ∀ choice ∈ scene.choices, Choice.form.ReadsBack (depth + 3) choice :=
    fun choice hchoice => Choice.readsBack_form depth
      (fun c hc => hconditions c
        (List.mem_append_right _ (List.mem_flatMap_of_mem hchoice hc)))
      (fun a ha => hactions a (List.mem_flatMap_of_mem hchoice ha))
  refine Form.ReadsBack.map (Form.readsBack_record "Scene" (by decide) ?_) rfl
  exact Fields.readsBack_required (Form.readsBack_text _ _) <|
    Fields.readsBack_required (Form.readsBack_text _ _) <|
    Fields.readsBack_withDefault (Form.readsBack_text _ _) <|
    Fields.readsBack_required (Form.readsBack_text _ _) <|
    Fields.readsBack_withDefault (Form.readsBack_list hchoices) <|
    Fields.readsBack_listField (fun c hc => by
      have hall := hconditions c (List.mem_append_left _ hc)
      exact Condition.readsBack_form (depth + 2) hall.1 hall.2) <|
    Fields.readsBack_withDefault (Form.readsBack_bool _ _) <|
    Fields.readsBack_listField (fun r _ => Reward.readsBack_form (depth + 2) r) <|
    Fields.readsBack_optional (fun _ => rfl) (fun l _ => Lesson.readsBack_form (depth + 2) l)
      trivial

namespace Activity

/-- Plain and proper activities are read back. -/
theorem readsBack_form (depth : Nat) {activity : Activity} (hplain : activity.Plain)
    (hproper : activity.Proper) : form.ReadsBack (depth + 7) activity := by
  -- What is asked of the activity is asked of the conditions and actions of each scene.
  have hscenes : ∀ scene ∈ activity.scenes, Scene.form.ReadsBack (depth + 5) scene :=
    fun scene hscene => Scene.readsBack_form depth
      (fun c hc =>
        have hall : c ∈ activity.allConditions := List.mem_flatMap_of_mem hscene hc
        ⟨hproper c hall, hplain.conditions c hall⟩)
      (fun a ha => hplain.actions a (List.mem_flatMap_of_mem hscene ha))
  refine Form.ReadsBack.map (Form.readsBack_record "NarrativeActivity" (by decide) ?_) rfl
  exact Fields.readsBack_required (Form.readsBack_text _ _) <|
    Fields.readsBack_required (Form.readsBack_text _ _) <|
    Fields.readsBack_withDefault (Form.readsBack_text _ _) <|
    Fields.readsBack_withDefault (Form.readsBack_text _ _) <|
    Fields.readsBack_withDefault (Form.readsBack_text _ _) <|
    Fields.readsBack_withDefault (Difficulty.readsBack_form _ _) <|
    Fields.readsBack_required (Form.readsBack_text _ _) <|
    Fields.readsBack_required (Form.readsBack_list hscenes) <|
    Fields.readsBack_optional (fun _ => rfl) (fun n _ => Form.readsBack_uint32 _ n) <|
    Fields.readsBack_withDefault (Form.readsBack_list fun s _ => Form.readsBack_text _ s) <|
    Fields.readsBack_withDefault (Form.readsBack_uint32 _ _) <|
    Fields.readsBack_optional (fun _ => rfl) (fun s _ => Form.readsBack_text _ s) <|
    Fields.readsBack_withDefault (Form.readsBack_bool _ _) trivial

end Activity

/-! ## What is read is proper -/

/-- A condition that is read takes what it looks at, and how it compares, from names. -/
theorem Condition.isProper_of_yields {c : Condition} (h : Condition.form.Yields c) :
    c.isProper = true := by
  obtain ⟨⟨aspect, key, value, operator, ⟨⟩⟩, hrow, rfl⟩ := h.of_map
  obtain ⟨haspect, -, -, hoperator, -⟩ := hrow.of_record
  -- Both fields must be there, so their names were read.
  obtain ⟨name, -, rfl⟩ := (haspect.resolve_right nofun).of_map
  obtain ⟨symbol, -, rfl⟩ := (hoperator.resolve_right nofun).of_map
  exact Bool.and_eq_true_iff.2 ⟨Aspect.isProper_ofName name, Operator.isProper_ofSymbol symbol⟩

/-- The conditions of a choice that is read are read. -/
theorem Choice.isProper_of_yields {choice : Choice} (h : Choice.form.Yields choice) :
    ∀ c ∈ choice.conditions, c.isProper = true := by
  obtain ⟨row, hrow, rfl⟩ := h.of_map
  obtain ⟨-, -, -, -, hconditions, -⟩ := hrow.of_record
  exact fun c hc => Condition.isProper_of_yields (Form.Yields.of_listField rfl hconditions c hc)

/-- The conditions of a scene that is read, and those of its choices, are read. -/
theorem Scene.isProper_of_yields {scene : Scene} (h : Scene.form.Yields scene) :
    ∀ c ∈ scene.allConditions, c.isProper = true := by
  obtain ⟨row, hrow, rfl⟩ := h.of_map
  obtain ⟨-, -, -, -, hchoices, hconditions, -⟩ := hrow.of_record
  intro c hc
  rcases List.mem_append.1 hc with hc | hc
  · exact Condition.isProper_of_yields (Form.Yields.of_listField rfl hconditions c hc)
  · obtain ⟨choice, hchoice, hc⟩ := List.mem_flatMap.1 hc
    exact Choice.isProper_of_yields (Form.Yields.of_listField rfl hchoices choice hchoice) c hc

namespace Activity

/-- An activity that is read is proper. -/
theorem proper_of_yields {activity : Activity} (h : form.Yields activity) : activity.Proper := by
  obtain ⟨row, hrow, rfl⟩ := h.of_map
  obtain ⟨-, -, -, -, -, -, -, hscenes, -⟩ := hrow.of_record
  intro c hc
  obtain ⟨scene, hscene, hc⟩ := List.mem_flatMap.1 hc
  exact Scene.isProper_of_yields (Form.Yields.of_listField rfl hscenes scene hscene) c hc

/-! ## Reading undoes writing -/

/-- An activity is read from its text, if no condition and no flag holds a double and nothing that
is not known goes by a known name. The second is so for every activity that is read from a text,
whether that was written or not. -/
theorem parse_pretty_activity :
    (∀ activity : Activity, activity.Plain → activity.Proper →
      form.parse (form.pretty activity) = .ok activity) ∧
    ∀ (text : String) (activity : Activity), form.parse text = .ok activity → activity.Proper := by
  -- An activity is nested seven levels deep, and 127 are allowed.
  refine ⟨fun activity hplain hproper => ?_, fun text activity h => ?_⟩
  · exact Form.parse_pretty (readsBack_form 120 hplain hproper)
  · exact proper_of_yields (Form.yields_of_parse h)

/-! ### A story with all there is -/

/-- A story with every kind of action and reward, with fields that are there and fields that are
left out, with names that are not known, and with hard texts and numbers. -/
def curiosityStory : Activity where
  id := "cabinet"
  title := "The \"cabinet\"\t\x01"
  description := "größe\\"
  difficulty := .hard
  startingSceneId := "hall"
  maxChoices := some 4294967295
  objectives := ["", "雪\n"]
  theme := some "\x0c"
  multimedia := true
  scenes :=
    [{ id := "hall", title := "Hall", description := ""
       conditions :=
        [⟨.unrecognized "weather", "sky", .text "fog", .unrecognized "~="⟩, .scoreAtLeast 0]
       rewards := [.badge "Finder", .xp 10]
       lesson :=
        some { concept := "Order", explanation := "Things have places.", examples := ["", "shelf"]
               multimedia := some { kind := "image", description := "A shelf" } }
       choices :=
        [{ id := "take", text := "Take it", description := some "", nextSceneId := "hall"
           conditions := [⟨.flag, "seen", .integer (-9223372036854775808), .ne⟩]
           actions :=
            [{ effect := .addItem "key", message := some "\r" }, { effect := .removeItem "" },
              { effect := .setFlag "name" (.text "\x7b\x7d") },
              { effect := .setFlag "seen" (.integer 9223372036854775807) },
              { effect := .setFlag "open" (.bool false), message := some "" },
              { effect := .modifyRelationship "keeper" (-3) },
              { effect := .addPoints 4294967295, message := some "Well done" },
              { effect := .unlockScene "vault" }]
           points := some 0, consequence := some "A click.", difficulty := some .easy
           feedback := some "/" },
         { id := "leave", text := "Leave", nextSceneId := "street" }] },
     { id := "street", title := "Street", description := "", isEnding := true }]

/-- The story comes back from its text. -/
theorem parse_pretty_activity_curiosityStory :
    curiosityStory.Plain ∧ curiosityStory.Proper ∧
    form.parse (form.pretty curiosityStory) = .ok curiosityStory := by
  have hplain : curiosityStory.Plain := ⟨by decide, by decide⟩
  have hproper : curiosityStory.Proper := by
    unfold Proper
    decide
  exact ⟨hplain, hproper, parse_pretty_activity.1 curiosityStory hplain hproper⟩

end Activity

end Gamebook
