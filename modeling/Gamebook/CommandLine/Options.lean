import Gamebook.Decimal.Whole

/-!
# Options and operands

How the words of a command line are read. An option is written `--name value`, `--name=value`,
`-n value`, `-nvalue` or `-n=value`; options without values can be joined, as in `-abc`. After `--`
all words are operands. Words are read from left to right, and reading stops at the first mistake or
request for help.
-/

namespace Gamebook

/-- What may stand for a value. -/
inductive ValueKind where
  | text
  /-- A path, which is not empty. -/
  | path
  /-- A whole number of 32 bits. -/
  | uint32
  deriving Repr, DecidableEq

/-- Whether a word may stand for a value of a kind. -/
def ValueKind.accepts : ValueKind → String → Bool
  | text, _ => true
  | path, word => word ≠ ""
  | uint32, word => (Decimal.uint32? word).isSome

/-- What an option is for. -/
inductive Purpose where
  /-- It is there or not. -/
  | flag
  /-- It has a value; with `many` it may be given more than once. -/
  | value (kind : ValueKind) (many : Bool)
  | help
  | version
  deriving Repr, DecidableEq

/-- An option of a command. -/
structure CommandOption where
  name : String
  letter : Option Char := none
  purpose : Purpose
  deriving Repr, DecidableEq

/-- A mistake in a command line. -/
inductive Misuse where
  | unknownOption (word : String)
  | missingValue (option : String)
  | needlessValue (option : String)
  | badValue (name value : String)
  | repeated (option : String)
  | needlessOperand (word : String)
  | missingOperand (name : String)
  | unknownCommand (word : String)
  | missingCommand
  deriving Repr, DecidableEq

/-- What is said about a mistake. -/
def Misuse.message : Misuse → String
  | unknownOption word => "unknown option " ++ word
  | missingValue option => "--" ++ option ++ " needs a value"
  | needlessValue option => "--" ++ option ++ " takes no value"
  | badValue name value => "invalid value '" ++ value ++ "' for " ++ name
  | repeated option => "--" ++ option ++ " may be given only once"
  | needlessOperand word => "unexpected argument " ++ word
  | missingOperand name => "missing argument " ++ name
  | unknownCommand word => "unknown command " ++ word
  | missingCommand => "missing command"

/-- Why a command line is not carried out. -/
inductive Stop where
  | help (command : String)
  | version (command : String)
  | misuse (mistake : Misuse)
  deriving Repr, DecidableEq

/-- What a command line may consist of. -/
structure Usage where
  /-- The name under which help and version are asked for. -/
  command : String
  options : List CommandOption
  /-- The operands, all of which are needed. -/
  operands : List (String × ValueKind) := []

/-- What was read so far of a command line. -/
structure Given where
  /-- The options with their values, in order; empty values for those without. -/
  options : List (String × String) := []
  operands : List String := []
  /-- An option whose value comes next. -/
  pending : Option CommandOption := none
  /-- Whether only operands can follow. -/
  operandsOnly : Bool := false

namespace Given

/-- Whether an option was given. -/
def has (given : Given) (name : String) : Bool := given.options.any (·.1 = name)

/-- The value of an option. -/
def value? (given : Given) (name : String) : Option String := given.options.lookup name

/-- All values of an option. -/
def values (given : Given) (name : String) : List String :=
  (given.options.filter (·.1 = name)).map Prod.snd

/-- The operand at a position. -/
def operand (given : Given) (position : Nat) : String := given.operands.getD position ""

/-- Adds an option that may be given once, or more often with `many`. -/
def add (given : Given) (name value : String) (many : Bool) : Except Stop Given :=
  if !many && given.has name then .error (.misuse (.repeated name))
  else .ok { given with options := given.options ++ [(name, value)], pending := none }

end Given

namespace Usage

variable (usage : Usage)

/-- Takes an option with the word that is its value. -/
def takeValue (given : Given) (option : CommandOption) (word : String) : Except Stop Given :=
  match option.purpose with
  | .value kind many =>
    if kind.accepts word then given.add option.name word many
    else .error (.misuse (.badValue ("--" ++ option.name) word))
  | _ => .error (.misuse (.needlessValue option.name))

/-- Takes an option to which no value is attached. -/
def takeBare (given : Given) (option : CommandOption) : Except Stop Given :=
  match option.purpose with
  | .flag => given.add option.name "" false
  | .value _ _ => .ok { given with pending := some option }
  | .help => .error (.help usage.command)
  | .version => .error (.version usage.command)

/-- Takes an option by its name, with the value that may be attached to it. -/
def takeLong (given : Given) (word : List Char) : Except Stop Given :=
  let name := String.ofList (word.takeWhile (· ≠ '='))
  match usage.options.find? (·.name = name) with
  | none => .error (.misuse (.unknownOption ("--" ++ String.ofList word)))
  | some option =>
    match word.dropWhile (· ≠ '=') with
    | [] => usage.takeBare given option
    | _ :: value => takeValue given option (String.ofList value)

/-- Takes options by their letters. What follows the letter of an option with a value is that
value. -/
def takeLetters (given : Given) : List Char → Except Stop Given
  | [] => .ok given
  | letter :: more =>
    match usage.options.find? (·.letter = some letter) with
    | none => .error (.misuse (.unknownOption (String.ofList ['-', letter])))
    | some option =>
      match option.purpose, more with
      | .value _ _, '=' :: value => takeValue given option (String.ofList value)
      | .value _ _, c :: value => takeValue given option (String.ofList (c :: value))
      | _, more =>
        match usage.takeBare given option with
        | .error stop => .error stop
        | .ok given => takeLetters given more

/-- Takes an operand. -/
def takeOperand (given : Given) (word : String) : Except Stop Given :=
  match usage.operands[given.operands.length]? with
  | none => .error (.misuse (.needlessOperand word))
  | some (name, kind) =>
    if kind.accepts word then .ok { given with operands := given.operands ++ [word] }
    else .error (.misuse (.badValue name word))

/-- Takes a word that is no option. -/
def takePlain (given : Given) (word : String) : Except Stop Given :=
  match given.pending with
  | some option => takeValue given option word
  | none => usage.takeOperand given word

/-- Reports an option whose value should come next. -/
def withoutPending (given : Given) (next : Except Stop Given) : Except Stop Given :=
  match given.pending with
  | some option => .error (.misuse (.missingValue option.name))
  | none => next

/-- Takes a word. -/
def take (given : Given) (word : String) : Except Stop Given :=
  if given.operandsOnly then usage.takeOperand given word
  else match word.toList with
    | ['-', '-'] => withoutPending given (.ok { given with operandsOnly := true })
    | '-' :: '-' :: name => withoutPending given (usage.takeLong given name)
    | '-' :: letter :: more => withoutPending given (usage.takeLetters given (letter :: more))
    | _ => usage.takePlain given word

/-- Checks that nothing is missing at the end. -/
def finish (given : Given) : Except Stop Given :=
  withoutPending given <|
    match usage.operands[given.operands.length]? with
    | some (name, _) => .error (.misuse (.missingOperand name))
    | none => .ok given

/-- Reads the words of a command line. -/
def read (words : List String) : Except Stop Given := do
  let given ← words.foldlM usage.take {}
  usage.finish given

end Usage

end Gamebook
