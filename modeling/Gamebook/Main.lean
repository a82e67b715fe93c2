import Gamebook.Authoring.FreshId
import Gamebook.CommandLine.Run
import Std.Time.DateTime.Timestamp

/-!
# The program

Carries out a command line: reads the files that a command names, asks at the console, and writes
what the command says. All that is said is decided elsewhere.
-/

namespace Gamebook.Terminal

/-- The present time. -/
def now : IO Instant := do
  let time ← Std.Time.Timestamp.now
  return (Instant.ofNanos? time.toNanosecondsSinceUnixEpoch.val).getD .epoch

/-- What is wrong with a file. -/
def faultOf : IO.Error → FileFault
  | .noFileOrDirectory .. => .notFound
  | .inappropriateType _ _ "not a directory" => .notDirectory
  | .inappropriateType _ 21 _ => .isDirectory
  | .invalidArgument _ _ "name too long" => .nameTooLong
  | fault => .other (toString fault)

/-- Reads a text. -/
def readText (path : String) : IO (Except FileFault String) := do
  try
    let bytes ← IO.FS.readBinFile path
    return match String.fromUTF8? bytes with
      | some text => .ok text
      | none => .error .notText
  catch fault =>
    return .error (faultOf fault)

/-- Writes a text. -/
def writeText (path text : String) : IO (Except FileFault Unit) := do
  try
    IO.FS.writeFile path text
    return .ok ()
  catch fault =>
    return .error (faultOf fault)

/-- Writes what a report says, and its document. -/
def perform (report : Report) : IO UInt32 := do
  IO.print report.output
  IO.eprint report.notes
  let written ← match report.document with
    | some document => writeText document.path document.text
    | none => pure (.ok ())
  let rest := { report with output := "", notes := "" }.conclude written
  IO.print rest.output
  IO.eprint rest.allNotes
  return rest.code

/-- Reads a line of the console, if one is left. -/
def readLine : IO (Option String) := do
  try
    let line ← (← IO.getStdin).getLine
    return if line.isEmpty then none else some (Text.trim line)
  catch _ =>
    return none

/-- Takes the next input of a script, if one is left. -/
def nextOf (script : IO.Ref (List String)) : IO (Option String) := do
  let inputs ← script.get
  script.set inputs.tail
  return inputs.head?

/-- Plays a game until the dialogue ends. -/
partial def converse (source : Source) (next : IO (Option String)) (game : Game) :
    IO (Game × Close) := do
  let (prompt, game) := game.prompt
  IO.print prompt.text
  if prompt.offered.isEmpty then
    return (game, .paused)
  IO.print source.cue
  (← IO.getStdout).flush
  match ← next with
  | none => return (game, .paused)
  | some input =>
    let clock : Readings := ⟨← now, ← now⟩
    let turn := source.turn prompt.offered game clock input
    IO.print turn.text
    match turn.close with
    | some close => return (turn.game, close)
    | none => converse source next turn.game

/-- Plays a story. -/
def play (options : PlayOptions) (setting : Setting) : IO UInt32 := do
  match options.game setting with
  | .error message => perform { failure := some message }
  | .ok game =>
    let next ← match options.choices with
      | some script => nextOf <$> IO.mkRef (scriptInputs script)
      | none => pure readLine
    let (game, close) ← converse options.source next game
    perform (options.ending game close)

/-- Carries out a command. -/
def carryOut (command : Command) : IO UInt32 := do
  let files ← command.filesRead.mapM fun path => return (path, ← readText path)
  let started ← now
  let bytes ← IO.getRandomBytes 16
  let setting : Setting :=
    { newId := freshId bytes.toList
      started
      clock := fun _ => .still started
      typed := ""
      read := fun path => (files.lookup path).getD (.error .notFound) }
  match command with
  | .play options => play options setting
  | command => perform (command.report setting)

end Gamebook.Terminal

/-- Runs the program. -/
def main (args : List String) : IO UInt32 := do
  match Gamebook.Command.ofWords args with
  | .ok command => Gamebook.Terminal.carryOut command
  | .error stop =>
    IO.print stop.output
    IO.eprint stop.notes
    return stop.code
