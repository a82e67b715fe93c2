import Gamebook.CommandLine.Directory
import Gamebook.Play.Clock
import Gamebook.Story.Activity

/-!
# Reports of commands

What a command finds when it runs, and what comes of it: a command says something, may fail, and may
write one file at its end.
-/

namespace Gamebook

/-- A file that a command writes at its end, with what it says once that is done. -/
structure Document where
  path : String
  text : String
  output : String := ""
  notes : String := ""

/-- The effect of a command. -/
structure Report where
  /-- What it writes to standard output. -/
  output : String := ""
  /-- What it writes to standard error. -/
  notes : String := ""
  /-- Why it failed. -/
  failure : Option String := none
  document : Option Document := none

/-- What a command finds around it, other than files. -/
structure Surroundings where
  /-- An id for a new story. -/
  newId : String
  /-- The time at the start. -/
  started : Instant
  /-- What the clock shows while a choice is taken, by the number of inputs before it. -/
  clock : Nat → Readings
  /-- What is typed. -/
  typed : String

/-- All that a command finds when it runs. -/
structure Setting extends Surroundings where
  /-- Reads a file. -/
  read : String → Except FileFault String

namespace Report

/-- A line of its own. -/
def line (text : String) : String := text ++ "\n"

/-- A number of things, of which there may be one. -/
def counted (n : Nat) (thing : String) : String :=
  toString n ++ " " ++ thing ++ (if n = 1 then "" else "s")

/-- What is said about a file that cannot be read. -/
def cannotRead (path : String) (fault : FileFault) : String :=
  "cannot read " ++ path ++ ": " ++ fault.message

/-- What is said about a file that cannot be written. -/
def cannotWrite (path : String) (fault : FileFault) : String :=
  "cannot write " ++ path ++ ": " ++ fault.message

/-- The effect of a command that may fail before it says anything. -/
def ofExcept : Except String Report → Report
  | .ok report => report
  | .error message => { failure := some message }

/-- What becomes of a report once its document is written, or cannot be. -/
def conclude (report : Report) (written : Except FileFault Unit) : Report :=
  match report.document with
  | none => report
  | some document =>
    match written with
    | .ok () =>
      { report with
        output := report.output ++ document.output
        notes := report.notes ++ document.notes
        document := none }
    | .error fault =>
      { report with failure := some (cannotWrite document.path fault), document := none }

/-- All that is written to standard error. -/
def allNotes (report : Report) : String :=
  report.notes ++
    (match report.failure with
      | some message => line ("error: " ++ message)
      | none => "")

/-- The exit code. -/
def code (report : Report) : UInt32 := if report.failure.isSome then 1 else 0

end Report

namespace Setting

/-- Reads a file. -/
def text (setting : Setting) (path : String) : Except String String :=
  match setting.read path with
  | .ok text => .ok text
  | .error fault => .error (Report.cannotRead path fault)

/-- Reads a file with a reader that may find a problem. -/
def parsed {α : Type} (setting : Setting) (path : String) (parse : String → Except Json.Problem α)
    (message : Json.Problem → String) : Except String α := do
  let text ← setting.text path
  match parse text with
  | .ok a => .ok a
  | .error problem => .error (message problem)

/-- Reads a file, if one is named. -/
def parsed? {α : Type} (setting : Setting) (path : Option String)
    (parse : String → Except Json.Problem α) (message : String → Json.Problem → String) :
    Except String (Option α) :=
  match path with
  | none => .ok none
  | some path => some <$> setting.parsed path parse (message path)

/-- What is said about a file whose text is not as it should be. -/
def invalidMessage (what path message : String) : String :=
  "invalid " ++ what ++ " " ++ path ++ ": " ++ message

/-- Reads a story. -/
def activity (setting : Setting) (path : String) : Except String Activity :=
  setting.parsed path Activity.form.parse fun problem =>
    invalidMessage "activity" path (Activity.invalidMessage problem)

end Setting

end Gamebook
