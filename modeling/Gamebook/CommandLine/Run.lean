import Gamebook.Authoring.Generator
import Gamebook.CommandLine.Command
import Gamebook.CommandLine.Report
import Gamebook.Play.Dialogue
import Gamebook.Story.Issue
import Gamebook.Text.Table

/-!
# Running commands

The effect of each command, as a function of the files that it reads, of what is typed and of the
time.
-/

namespace Gamebook

/-! ## Generating -/

namespace GenerateOptions

/-- The brief that the options describe. -/
def brief (options : GenerateOptions) (difficulty : Difficulty) : Brief where
  subject := Subject.ofText options.subject
  grade := options.grade
  difficulty
  objectives := options.objectives
  duration := options.duration
  theme := options.theme
  multimedia := options.multimedia

/-- Generates a story with a new generator. Its counts overflow only for more objectives than any
command line holds. -/
def activity (options : GenerateOptions) (setting : Setting) : Except String Activity := do
  let recipe ← setting.parsed? options.config Recipe.parse fun path problem =>
    Setting.invalidMessage "builder config" path problem.message
  let difficulty ← Difficulty.ofText options.difficulty
  let generator : Generator := { recipe := recipe.getD {} }
  match generator.generate setting.newId options.title options.description
      (options.brief difficulty) with
  | some (activity, _) => return activity
  | none => throw "attempt to add with overflow"

/-- Generates a story, and writes or shows it. -/
def report (options : GenerateOptions) (setting : Setting) : Report :=
  .ofExcept do
    let activity ← options.activity setting
    let text := Activity.form.pretty activity
    return match options.output with
      | some path =>
        { document := some { path, text, notes := Report.line ("  Wrote " ++ path) } }
      | none => { output := Report.line text }

end GenerateOptions

/-! ## Looking at a story -/

namespace Activity

/-- Lists the defects of a story. -/
def checkReport (activity : Activity) : Report :=
  let issues := activity.issues
  let errors := issues.countP (·.isError)
  let warnings := issues.length - errors
  let notes := indented (issues.map Issue.display)
  if errors = 0 then
    { notes
      output := indented
        ["All checks passed for '" ++ activity.title ++ "'.",
          toString activity.scenes.length ++ " scenes, " ++ Report.counted warnings "warning"] }
  else
    { notes
      failure := some
        (Report.counted errors "error" ++ ", " ++ Report.counted warnings "warning") }

/-- The cell that tells where the choices of a scene lead. -/
def targetsCell (choices : List Choice) : String :=
  if choices.isEmpty then "-"
  else toString choices.length ++ " -> " ++ ", ".intercalate (choices.map (·.nextSceneId))

/-- The row of a scene. -/
def sceneRow (scene : Scene) : List String :=
  [scene.id, scene.title, targetsCell scene.choices, if scene.isEnding then "yes" else "",
    " and ".intercalate (scene.conditions.map Condition.display)]

/-- The table of the scenes. -/
def sceneTable (activity : Activity) : Text.Table where
  header := ["Id", "Title", "Choices", "Ending", "Gated"]
  rows := activity.scenes.map sceneRow

/-- The line that tells where a story starts. -/
def startLine (activity : Activity) : String :=
  "start: " ++ activity.startingSceneId ++
    (match activity.maxChoices with
      | some limit => ", choice limit: " ++ toString limit.toNat
      | none => "")

/-- Lists the scenes of a story. -/
def outlineReport (activity : Activity) : Report where
  output :=
    indented
        ([activity.title ++ " [" ++ activity.id ++ "]"] ++
          (if activity.description = "" then [] else [activity.description]) ++
          (if activity.objectives.isEmpty then []
            else ["objectives: " ++ ", ".intercalate activity.objectives]) ++
          [activity.startLine]) ++
      "\n" ++ Score.unlines activity.sceneTable.lines ++ "\n" ++
      indented [toString activity.scenes.length ++ " scenes"]

end Activity

/-! ## Playing -/

namespace PlayOptions

/-- The game to be played. -/
def game (options : PlayOptions) (setting : Setting) : Except String Game := do
  let activity ← setting.activity options.file
  let rules ← setting.parsed? options.config Rules.parse fun path problem =>
    Setting.invalidMessage "engine config" path problem.message
  let snapshot ← setting.parsed? options.resume Snapshot.form.parse fun _ =>
    Snapshot.invalidMessage
  Game.tryStart activity (rules.getD {}) {} snapshot setting.started

/-- Where the inputs come from. -/
def source (options : PlayOptions) : Source :=
  if options.choices.isSome then .script else .console

/-- The inputs, each with what the clock shows while it is answered. -/
def inputs (options : PlayOptions) (setting : Setting) : List (Readings × String) :=
  let inputs := match options.choices with
    | some script => scriptInputs script
    | none => consoleInputs setting.typed
  inputs.mapIdx fun i input => (setting.clock i, input)

/-- The snapshot that is written at the end. -/
def document? (options : PlayOptions) (game : Game) : Option Document :=
  options.save.map fun path =>
    { path
      text := Snapshot.form.pretty game.save
      output := indented ["Saved progress to " ++ path] }

/-- What is said and done at the end of a dialogue. -/
def ending (options : PlayOptions) (game : Game) (close : Close) : Report :=
  match close with
  | .failed message => { failure := some message }
  | close => { output := close.shown game, document := options.document? game }

/-- Plays a story up to the end of the dialogue. -/
def dialogue (options : PlayOptions) (setting : Setting) : Except String Dialogue := do
  let game ← options.game setting
  return options.source.converse game (options.inputs setting)

/-- Plays a story. -/
def report (options : PlayOptions) (setting : Setting) : Report :=
  .ofExcept do
    let dialogue ← options.dialogue setting
    let ending := options.ending dialogue.game dialogue.close
    return { ending with output := dialogue.text ++ ending.output }

end PlayOptions

/-! ## All commands -/

namespace Command

/-- The files that a command reads, in order. -/
def filesRead : Command → List String
  | .generate options => options.config.toList
  | .check file | .outline file => [file]
  | .play options => [options.file] ++ options.config.toList ++ options.resume.toList

/-- The effect of a command. -/
def report (command : Command) (setting : Setting) : Report :=
  match command with
  | .generate options => options.report setting
  | .check file => .ofExcept (Activity.checkReport <$> setting.activity file)
  | .outline file => .ofExcept (Activity.outlineReport <$> setting.activity file)
  | .play options => options.report setting

end Command

/-- How a run of the program ends. -/
structure Exit where
  code : UInt32
  output : String
  notes : String
  directory : Directory

namespace Exit

/-- A report whose document goes to a device: what is written to an output is shown there. -/
def shownOn (device : Option Directory.Device) (report : Report) : Report :=
  match device, report.document with
  | some .output, some document => { report with output := report.output ++ document.text }
  | some .notes, some document => { report with notes := report.notes ++ document.text }
  | _, _ => report

/-- Writes the document of a report into a directory. -/
def ofReport (directory : Directory) (report : Report) : Exit :=
  let device := report.document.bind fun document => directory.device? document.path
  let written := match report.document with
    | some document => directory.write document.path document.text
    | none => .ok directory
  let report := (shownOn device report).conclude (written.map fun _ => ())
  { code := report.code
    output := report.output
    notes := report.allNotes
    directory := match written with
      | .ok directory => directory
      | .error _ => directory }

/-- What a command finds in a directory. Where a file that it reads is what is typed, nothing is
left of that at the console. -/
def setting (directory : Directory) (surroundings : Surroundings) (command : Command) : Setting :=
  let isInput := fun path => directory.device? path = some .input
  { surroundings with
    typed := if command.filesRead.any isInput then "" else surroundings.typed
    read := fun path => if isInput path then .ok surroundings.typed else directory.read path }

/-- Runs a command line in a directory. -/
def run (directory : Directory) (surroundings : Surroundings) (words : List String) : Exit :=
  match Command.ofWords words with
  | .error stop => { code := stop.code, output := stop.output, notes := stop.notes, directory }
  | .ok command => ofReport directory (command.report (setting directory surroundings command))

end Exit

end Gamebook
