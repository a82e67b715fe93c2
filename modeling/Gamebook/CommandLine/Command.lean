import Gamebook.CommandLine.Options

/-!
# Commands

The commands of the program and how they are written: `generate` makes a story, `check` looks for
defects, `show` lists the scenes, and `play` plays.
-/

namespace Gamebook

/-- What a story is to be generated from. -/
structure GenerateOptions where
  title : String
  description : String := ""
  subject : String := "physics"
  grade : String := ""
  difficulty : String := "medium"
  objectives : List String := []
  duration : UInt32 := 15
  theme : Option String := none
  multimedia : Bool := false
  /-- The file with the recipe. -/
  config : Option String := none
  /-- The file to be written; without one the story is shown. -/
  output : Option String := none
  deriving Repr, DecidableEq

/-- What is to be played, and how. -/
structure PlayOptions where
  file : String
  /-- A script with the inputs; without one they are typed. -/
  choices : Option String := none
  /-- The file with a snapshot to go on from. -/
  resume : Option String := none
  /-- The file for a snapshot of the end. -/
  save : Option String := none
  /-- The file with the rules of scoring. -/
  config : Option String := none
  deriving Repr, DecidableEq

/-- A command. -/
inductive Command where
  | generate (options : GenerateOptions)
  | check (file : String)
  | outline (file : String)
  | play (options : PlayOptions)
  deriving Repr, DecidableEq

namespace Command

/-- The name of the program. -/
def program : String := "tale"

/-- The version of the program. -/
def version : String := "0.1.0"

/-- The options that all commands know. -/
def commonOptions : List CommandOption :=
  [⟨"verbose", some 'v', .flag⟩, ⟨"help", some 'h', .help⟩, ⟨"version", some 'V', .version⟩]

/-- The options before the command. -/
def programUsage : Usage where
  command := program
  options := commonOptions

/-- The usage of a command. -/
def usageOf (name : String) (options : List CommandOption) (operand : String × ValueKind) :
    Usage where
  command := program ++ "-" ++ name
  options := options ++ commonOptions
  operands := [operand]

/-- An option with a text. -/
def textOption (name : String) (letter : Option Char := none) : CommandOption :=
  ⟨name, letter, .value .text false⟩

/-- An option with a path. -/
def pathOption (name : String) (letter : Option Char := none) : CommandOption :=
  ⟨name, letter, .value .path false⟩

/-- The usage of `generate`. -/
def generateUsage : Usage :=
  usageOf "generate"
    [textOption "description", textOption "subject" (some 's'), textOption "grade" (some 'g'),
      textOption "difficulty", ⟨"objective", none, .value .text true⟩,
      ⟨"duration", none, .value .uint32 false⟩, textOption "theme", ⟨"multimedia", none, .flag⟩,
      pathOption "config", pathOption "output" (some 'o')]
    ("TITLE", .text)

/-- The options of `generate`, where those that are absent keep their defaults. -/
def generateOptions (given : Given) : GenerateOptions :=
  let usual : GenerateOptions := { title := given.operand 0 }
  { usual with
    description := (given.value? "description").getD usual.description
    subject := (given.value? "subject").getD usual.subject
    grade := (given.value? "grade").getD usual.grade
    difficulty := (given.value? "difficulty").getD usual.difficulty
    objectives := given.values "objective"
    duration := ((given.value? "duration").bind Decimal.uint32?).getD usual.duration
    theme := given.value? "theme"
    multimedia := given.has "multimedia"
    config := given.value? "config"
    output := given.value? "output" }

/-- The usage of a command that looks at a story. -/
def lookUsage (name : String) : Usage := usageOf name [] ("FILE", .path)

/-- The usage of `play`. -/
def playUsage : Usage :=
  usageOf "play"
    [textOption "choices" (some 'c'), pathOption "resume", pathOption "save", pathOption "config"]
    ("FILE", .path)

/-- The options of `play`. -/
def playOptions (given : Given) : PlayOptions where
  file := given.operand 0
  choices := given.value? "choices"
  resume := given.value? "resume"
  save := given.value? "save"
  config := given.value? "config"

/-- The names of the commands. -/
def names : List String := ["generate", "check", "show", "play"]

/-- A request for help, of which `words` name the command that it is about. -/
def helpOn : List String → Stop
  | [] => .help program
  | [name] =>
    if names.contains name ∨ name = "help" then .help (program ++ "-" ++ name)
    else .misuse (.unknownCommand name)
  | _ :: word :: _ => .misuse (.unknownCommand word)

/-- The command with a name and the words after it. -/
def ofName (name : String) (words : List String) : Except Stop Command :=
  match name with
  | "generate" => (fun given => .generate (generateOptions given)) <$> generateUsage.read words
  | "check" => (fun given => .check (given.operand 0)) <$> (lookUsage "check").read words
  | "show" => (fun given => .outline (given.operand 0)) <$> (lookUsage "show").read words
  | "play" => (fun given => .play (playOptions given)) <$> playUsage.read words
  | "help" => .error (helpOn words)
  | _ => .error (.misuse (.unknownCommand name))

/-- Whether a word is written like an option. -/
def looksLikeOption (word : String) : Bool :=
  match word.toList with
  | '-' :: _ :: _ => true
  | _ => false

/-- The command that the words of a command line ask for. -/
def ofWords (words : List String) : Except Stop Command := do
  let given ← programUsage.read (words.takeWhile looksLikeOption)
  match words.dropWhile looksLikeOption with
  | [] => .error (.misuse .missingCommand)
  | name :: words =>
    if given.operandsOnly then .error (.misuse (.unknownCommand name)) else ofName name words

end Command

/-! ## What is said instead of carrying out a command -/

namespace Stop

/-- The help for the program or a command. -/
def helpText (command : String) : String :=
  "Usage: " ++ command ++ " [OPTIONS] <ARGUMENTS>\n\n" ++
    "  generate TITLE  generate a story and print it as JSON\n" ++
    "  check FILE      look for defects of a story\n" ++
    "  show FILE       list the scenes of a story\n" ++
    "  play FILE       play a story\n"

/-- What is written to standard output. -/
def output : Stop → String
  | help command => helpText command
  | version command => command ++ " " ++ Command.version ++ "\n"
  | misuse _ => ""

/-- What is written to standard error. -/
def notes : Stop → String
  | misuse mistake => "error: " ++ mistake.message ++ "\n\n" ++ helpText Command.program
  | _ => ""

/-- The exit code. -/
def code : Stop → UInt32
  | misuse _ => 2
  | _ => 0

end Stop

end Gamebook
