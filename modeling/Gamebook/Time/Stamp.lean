import Gamebook.Text.Blank
import Gamebook.Time.Instant

/-!
# Time stamps

The RFC 3339 text of an instant. Writing always gives UTC with as many groups of three fraction
digits as the instant needs. Reading takes any offset, and is lenient: blanks between the parts, a
sign and more digits for the year, and an offset without a colon are all accepted.
-/

namespace Gamebook.Stamp

/-! ## Writing -/

/-- A number with zeros in front, to at least `size` digits. -/
def padded (size n : Nat) : List Char :=
  let digits := Nat.toDigits 10 n
  List.replicate (size - digits.length) '0' ++ digits

/-- A year: four digits from 0 to 9999, otherwise a sign and at least four digits. -/
def yearText (year : Int) : List Char :=
  if 0 ≤ year ∧ year ≤ 9999 then padded 4 year.toNat
  else (if year < 0 then '-' else '+') :: padded 4 year.natAbs

/-- The fraction of a second, in the fewest groups of three digits. -/
def fractionText (nano : Nat) : List Char :=
  if nano = 0 then []
  else if nano % 1000000 = 0 then '.' :: padded 3 (nano / 1000000)
  else if nano % 1000 = 0 then '.' :: padded 6 (nano / 1000)
  else '.' :: padded 9 nano

/-- The time of day, where a leap second is the second number 60. -/
def timeText (second nano : Nat) : List Char :=
  let extra := if 1000000000 ≤ nano then 1 else 0
  padded 2 (second / 3600) ++ ':' :: padded 2 (second / 60 % 60) ++ ':' ::
    padded 2 (second % 60 + extra) ++ fractionText (nano % 1000000000)

/-- The date part of a stamp. -/
def dateText (date : Date) : List Char :=
  yearText date.year ++ '-' :: padded 2 date.month ++ '-' :: padded 2 date.day

/-- The stamp of an instant. -/
def write (t : Instant) : List Char :=
  dateText t.date ++ 'T' :: timeText t.second t.nano ++ ['Z']

/-! ## Reading -/

/-- Why a text is no stamp. -/
inductive Fault where
  /-- A number is too large or too small for its place. -/
  | outOfRange
  /-- The offset takes the instant out of the range. -/
  | impossible
  /-- A character cannot stand in its place. -/
  | invalid
  /-- The text ends before the stamp does. -/
  | tooShort
  /-- Text follows the stamp. -/
  | tooLong
  deriving Repr, DecidableEq

/-- What is said about a fault. -/
def Fault.message : Fault → String
  | outOfRange => "input is out of range"
  | impossible => "no possible date and time matching input"
  | invalid => "input contains invalid characters"
  | tooShort => "premature end of input"
  | tooLong => "trailing input"

/-- Reads from the front of a text. -/
abbrev Reader (α : Type) := StateT (List Char) (Except Fault) α

/-- Passes over blanks. -/
def skipBlanks : Reader Unit := modify Text.trimStart

/-- Reads at least one and at most `limit` digits; all that follow when there is no limit. -/
def digits (limit : Option Nat) : Reader (List Char) := do
  let text ← get
  let taken := match limit with
    | some n => (text.take n).takeWhile Char.isDigit
    | none => text.takeWhile Char.isDigit
  if taken.isEmpty then
    throw (if text.isEmpty then .tooShort else .invalid)
  set (text.drop taken.length)
  return taken

/-- Reads a number of at most `limit` digits. -/
def number (limit : Option Nat) : Reader Nat := return Nat.ofDigitChars 10 (← digits limit) 0

/-- Reads a two-digit number within bounds, after blanks. -/
def field (least greatest : Nat) : Reader Nat := do
  skipBlanks
  let n ← number (some 2)
  if n < least ∨ greatest < n then throw .outOfRange
  return n

/-- Reads one given character, after blanks. -/
def separator (c : Char) : Reader Unit := do
  skipBlanks
  match (← get) with
  | [] => throw .tooShort
  | d :: rest => if d = c then set rest else throw .invalid

/-- Reads four digits at most, or a sign and any number of digits. -/
def signedNumber : Reader Int := do
  match (← get) with
  | '-' :: rest =>
    set rest
    return -(Int.ofNat (← number none))
  | '+' :: rest =>
    set rest
    return Int.ofNat (← number none)
  | _ => return Int.ofNat (← number (some 4))

/-- Reads a year, after blanks. -/
def year : Reader Int := do
  skipBlanks
  let n ← signedNumber
  if n < -2147483648 ∨ 2147483647 < n then throw .outOfRange
  return n

/-- Reads the fraction of a second, if there is one. Digits after the ninth do not count. -/
def fraction : Reader Nat := do
  match (← get) with
  | '.' :: rest =>
    set rest
    let read ← digits (some 9)
    modify (·.dropWhile Char.isDigit)
    return Nat.ofDigitChars 10 read 0 * Nat.pow 10 (9 - read.length)
  | _ => return 0

/-- The next two characters as digits, if they are. -/
def twoDigits? : List Char → Option Nat
  | a :: b :: _ => if a.isDigit && b.isDigit then some (Nat.ofDigitChars 10 [a, b] 0) else none
  | _ => none

/-- Whether too little is left for two digits. A character beyond ASCII is long enough. -/
def lacksTwo : List Char → Bool
  | [] => true
  | [c] => c.utf8Size < 2
  | _ => false

/-- Reads exactly two digits. -/
def twoDigits : Reader Nat := do
  let text ← get
  match twoDigits? text with
  | some n =>
    set (text.drop 2)
    return n
  | none => throw (if lacksTwo text then .tooShort else .invalid)

/-- Reads the hours and minutes of an offset, with any colons and blanks between them, as
seconds. -/
def offsetSize : Reader Nat := do
  let hours ← twoDigits
  modify (·.dropWhile fun c => c = ':' || Text.isBlank c)
  let minutes ← twoDigits
  if 60 ≤ minutes then throw .outOfRange
  return hours * 3600 + minutes * 60

/-- Reads the offset from UTC in seconds. -/
def offset : Reader Int := do
  match (← get) with
  | 'Z' :: rest | 'z' :: rest =>
    set rest
    return 0
  | u :: t :: c :: rest =>
    if u.toUpper = 'U' ∧ t.toUpper = 'T' ∧ c.toUpper = 'C' then
      set rest
      return 0
    else
      signed (u :: t :: c :: rest)
  | text => signed text
where
  /-- Reads an offset that begins with a sign. -/
  signed : List Char → Reader Int
    | '+' :: rest => do
      set rest
      return Int.ofNat (← offsetSize)
    | '-' :: rest | '\u2212' :: rest => do
      set rest
      return -(Int.ofNat (← offsetSize))
    | [] => throw .tooShort
    | _ => throw .invalid

/-- The parts of a stamp as they are written. -/
structure Parts where
  date : Date
  hour : Nat
  minute : Nat
  second : Nat
  nano : Nat
  /-- Seconds ahead of UTC. -/
  offset : Int
  deriving Repr

/-- Reads the parts of a stamp. -/
def parts : Reader Parts := do
  let year ← year
  separator '-'
  let month ← field 1 12
  separator '-'
  let day ← field 1 31
  match (← get) with
  | 'T' :: rest | 't' :: rest | ' ' :: rest => set rest
  | [] => throw .tooShort
  | _ => throw .invalid
  let hour ← field 0 23
  separator ':'
  let minute ← field 0 59
  separator ':'
  let second ← field 0 60
  let nano ← fraction
  skipBlanks
  let offset ← offset
  skipBlanks
  unless (← get).isEmpty do throw .tooLong
  return { date := { year, month, day }, hour, minute, second, nano, offset }

/-- The first and the last year that an instant can lie in. -/
def yearInRange (year : Int) : Bool := -262143 ≤ year && year ≤ 262142

/-- The instant that the parts of a stamp name. -/
def Parts.toInstant (p : Parts) : Except Fault Instant :=
  if ¬ (yearInRange p.date.year ∧ p.date.isValid) then throw .outOfRange
  else if p.offset ≤ -86400 ∨ 86400 ≤ p.offset then throw .outOfRange
  else
    let leap := p.second = 60
    let localSecond : Int :=
      Int.ofNat (p.hour * 3600 + p.minute * 60 + (if leap then 59 else p.second)) - p.offset
    match Instant.ofParts? (p.date.toDay + localSecond / 86400) (localSecond % 86400).toNat
        (p.nano + (if leap then 1000000000 else 0)) with
    | some t => pure t
    | none => throw .impossible

/-- The instant that a text names. -/
def read (text : List Char) : Except Fault Instant := do
  let (p, _) ← parts.run text
  p.toInstant

end Gamebook.Stamp
