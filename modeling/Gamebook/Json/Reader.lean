import Gamebook.Json.Problem

/-!
# Reading JSON text

A reader takes what it wants from the front of a text and leaves the rest, so a typed reader can
stop at the first problem, before the text that follows is looked at. Lists and objects may be
nested only so deep: `depth` is the number of levels that may still be opened. Values that nobody
asked for are passed over by `skipValue`, to any depth.
-/

namespace Gamebook.Json

/-- Reads from the front of a text. -/
abbrev Reader (α : Type) := StateT (List Char) (Except Problem) α

/-- The number of lists and objects that may be open at once. -/
def maxDepth : Nat := 127

/-- The white space of JSON. -/
def isSpace (c : Char) : Bool := c = ' ' || c = '\n' || c = '\t' || c = '\r'

/-- Passes over white space. -/
def skipSpace : Reader Unit := modify (·.dropWhile isSpace)

/-- Reports a text that ends too early. -/
def endedIn {α : Type} (place : Place) : Reader α := throw (.ended place)

/-- Reports a breach of the grammar. -/
def breached {α : Type} (b : Breach) : Reader α := throw (.breach b)

/-- Reports a value of the wrong shape. -/
def mismatched {α : Type} (m : Mismatch) : Reader α := throw (.mismatch m)

/-- The next character that is not white space, if any. It stays in the text. -/
def next? : Reader (Option Char) := do
  skipSpace
  return (← get).head?

/-- Passes over one character. -/
def advance : Reader Unit := modify List.tail

/-! ## Words and numbers -/

/-- Reads the given letters, the rest of a word. -/
def word : List Char → Reader Unit
  | [] => pure ()
  | c :: cs => do
    match (← get) with
    | [] => endedIn .value
    | d :: rest =>
      if d = c then
        set rest
        word cs
      else breached .wordExpected

/-- The parts of a number as they are written. -/
structure NumberText where
  negative : Bool
  whole : List Char
  fraction : List Char
  /-- Whether the exponent is negative, and its digits. -/
  exponent : Option (Bool × List Char)

/-- Reads one or more digits. A text that ends here is reported as `atEnd`. -/
def someDigits (atEnd : Problem) : Reader (List Char) := do
  let text ← get
  let digits := text.takeWhile Char.isDigit
  if digits.isEmpty then
    throw (if text.isEmpty then atEnd else .breach .badNumber)
  else
    set (text.dropWhile Char.isDigit)
    return digits

/-- Reads the digits before the point: a zero alone, or any digits that do not begin with one. -/
def wholeDigits (atEnd : Problem) : Reader (List Char) := do
  match (← get) with
  | '0' :: rest =>
    if rest.head?.any Char.isDigit then breached .badNumber
    else
      set rest
      return ['0']
  | _ => someDigits atEnd

/-- Reads the point and the digits after it, if there is a point. -/
def fractionDigits (atEnd : Problem) : Reader (List Char) := do
  match (← get) with
  | '.' :: rest =>
    set rest
    someDigits atEnd
  | _ => return []

/-- Reads a sign, if there is one; whether it is a minus sign. -/
def exponentSign : Reader Bool := do
  match (← get) with
  | '+' :: rest =>
    set rest
    return false
  | '-' :: rest =>
    set rest
    return true
  | _ => return false

/-- Reads an exponent, if there is one. -/
def exponentDigits (atEnd : Problem) : Reader (Option (Bool × List Char)) := do
  match (← get) with
  | 'e' :: rest | 'E' :: rest =>
    set rest
    let negative ← exponentSign
    let digits ← someDigits atEnd
    return some (negative, digits)
  | _ => return none

/-- Reads a number, whose minus sign has been read already. -/
def numberText (atEnd : Problem) (negative : Bool) : Reader NumberText := do
  let whole ← wholeDigits atEnd
  let fraction ← fractionDigits atEnd
  let exponent ← exponentDigits atEnd
  return { negative, whole, fraction, exponent }

/-- The value of a number. Without point and exponent it is a whole number, if one of 64 bits: not
negative, or below zero. -/
def NumberText.number? (t : NumberText) : Option Number :=
  let magnitude := Nat.ofDigitChars 10 t.whole 0
  if t.fraction.isEmpty ∧ t.exponent.isNone ∧ t.negative = false ∧ magnitude ≤ maxUInt64 then
    some (.int magnitude)
  else if t.fraction.isEmpty ∧ t.exponent.isNone ∧ t.negative ∧ 0 < magnitude ∧
      magnitude ≤ minInt64.natAbs then
    some (.int (-magnitude))
  else
    (Decimal.literal? t.whole t.fraction t.exponent).map fun x =>
      .float (if t.negative then -x else x)

/-- Reads a number, whose minus sign has been read already. -/
def unsignedNumber (negative : Bool) : Reader Number := do
  let t ← numberText (.ended .value) negative
  match t.number? with
  | some n => return n
  | none => breached .hugeNumber

/-- Reads a number. -/
def number : Reader Number := do
  match (← get) with
  | '-' :: rest =>
    set rest
    unsignedNumber true
  | _ => unsignedNumber false

/-! ## Strings -/

/-- The value of a hexadecimal digit. -/
def hexValue (c : Char) : Option Nat :=
  if '0' ≤ c ∧ c ≤ '9' then some (c.toNat - '0'.toNat)
  else if 'a' ≤ c ∧ c ≤ 'f' then some (c.toNat - 'a'.toNat + 10)
  else if 'A' ≤ c ∧ c ≤ 'F' then some (c.toNat - 'A'.toNat + 10)
  else none

/-- The value of four hexadecimal digits. -/
def hexWord (a b c d : Char) : Option Nat := do
  let a ← hexValue a
  let b ← hexValue b
  let c ← hexValue c
  let d ← hexValue d
  return ((a * 16 + b) * 16 + c) * 16 + d

/-- The problem with a text that should begin with four hexadecimal digits and does not: it is too
short when fewer than four bytes are left. -/
def noHexWord (text : List Char) : Problem :=
  if (text.take 4).foldl (fun n c => n + c.utf8Size) 0 < 4 then .ended .string
  else .breach .badEscape

/-- Whether a word of UTF-16 is the first of a pair. -/
def isLeading (n : Nat) : Bool := 0xD800 ≤ n && n ≤ 0xDBFF

/-- Whether a word of UTF-16 is the second of a pair. -/
def isTrailing (n : Nat) : Bool := 0xDC00 ≤ n && n ≤ 0xDFFF

/-- The character that a pair of words stands for. -/
def pairChar (leading trailing : Nat) : Char :=
  Char.ofNat ((leading - 0xD800) * 0x400 + (trailing - 0xDC00) + 0x10000)

/-- The character that an escape of one letter stands for. -/
def escapeLetter : Char → Option Char
  | '"' => some '"'
  | '\\' => some '\\'
  | '/' => some '/'
  | 'b' => some '\x08'
  | 'f' => some '\x0c'
  | 'n' => some '\n'
  | 'r' => some '\r'
  | 't' => some '\t'
  | _ => none

/-- Puts a character in front of the text that was read. -/
def consChar (c : Char) (result : Except Problem (List Char × List Char)) :
    Except Problem (List Char × List Char) :=
  match result with
  | .ok (body, rest) => .ok (c :: body, rest)
  | .error e => .error e

/-- The characters of a string up to its closing quote, and the text after it. -/
def stringBody : List Char → Except Problem (List Char × List Char)
  | [] => .error (.ended .string)
  | '"' :: rest => .ok ([], rest)
  | ['\\'] => .error (.ended .string)
  | '\\' :: 'u' :: a :: b :: c :: d :: rest =>
    match hexWord a b c d with
    | none => .error (noHexWord (a :: b :: c :: d :: rest))
    | some n =>
      if isTrailing n then .error (.breach .loneSurrogate)
      else if isLeading n then
        match rest with
        | '\\' :: 'u' :: a' :: b' :: c' :: d' :: rest' =>
          match hexWord a' b' c' d' with
          | none => .error (noHexWord (a' :: b' :: c' :: d' :: rest'))
          | some m =>
            if isTrailing m then consChar (pairChar n m) (stringBody rest')
            else .error (.breach .loneSurrogate)
        | '\\' :: 'u' :: short => .error (noHexWord short)
        | ['\\'] | [] => .error (.ended .string)
        | _ => .error (.breach .halfPair)
      else consChar (Char.ofNat n) (stringBody rest)
  | '\\' :: 'u' :: short => .error (noHexWord short)
  | '\\' :: c :: rest =>
    match escapeLetter c with
    | some e => consChar e (stringBody rest)
    | none => .error (.breach .badEscape)
  | c :: rest =>
    if c.toNat < 0x20 then .error (.breach .controlCharacter)
    else consChar c (stringBody rest)

/-- Reads a string, whose opening quote has been read already. -/
def string : Reader String := fun text =>
  match stringBody text with
  | .ok (body, rest) => .ok (String.ofList body, rest)
  | .error e => .error e

/-- The text after a string that nobody asked for. Its escapes are looked at one by one only. -/
def afterString : List Char → Except Problem (List Char)
  | [] => .error (.ended .string)
  | '"' :: rest => .ok rest
  | ['\\'] => .error (.ended .string)
  | '\\' :: 'u' :: a :: b :: c :: d :: rest =>
    if (hexWord a b c d).isSome then afterString rest
    else .error (noHexWord (a :: b :: c :: d :: rest))
  | '\\' :: 'u' :: short => .error (noHexWord short)
  | '\\' :: c :: rest =>
    if (escapeLetter c).isSome then afterString rest else .error (.breach .badEscape)
  | c :: rest =>
    if c.toNat < 0x20 then .error (.breach .controlCharacter) else afterString rest

/-- Passes over a string, whose opening quote has been read already. -/
def skipString : Reader Unit := fun text =>
  match afterString text with
  | .ok rest => .ok ((), rest)
  | .error e => .error e

/-! ## Lists and objects -/

/-- Whether another element of a list follows. Reads the comma before it. -/
def hasElement (first : Bool) : Reader Bool := do
  match (← next?) with
  | none => endedIn .list
  | some ']' => return false
  | some c =>
    if first then return true
    else if c = ',' then
      advance
      match (← next?) with
      | none => endedIn .value
      | some ']' => breached .trailingComma
      | some _ => return true
    else breached .listGoesOn

/-- Reads the end of a list. -/
def closeList : Reader Unit := do
  match (← next?) with
  | none => endedIn .list
  | some ']' => advance
  | some ',' =>
    advance
    if (← next?) = some ']' then breached .trailingComma else breached .trailingText
  | some _ => breached .trailingText

/-- Reads the elements of a list up to its end. Each takes at least one character, so `fuel` is not
used up when it starts as the length of the text. -/
def elements {α : Type} (item : Reader α) : (fuel : Nat) → (first : Bool) → Reader (List α)
  | 0, _ => endedIn .list
  | fuel + 1, first => do
    if (← hasElement first) then
      let x ← item
      let xs ← elements item fuel false
      return x :: xs
    else
      return []

/-- Reads the elements of a list that follow those already read, and the end of the list. -/
def listFrom {α : Type} (first : Bool) (item : Reader α) : Reader (List α) := do
  let xs ← elements item ((← get).length + 1) first
  closeList
  return xs

/-- Whether another member of an object follows. Reads all up to the opening quote of its name. -/
def hasMember (first : Bool) : Reader Bool := do
  match (← next?) with
  | none => endedIn .object
  | some '}' => return false
  | some c =>
    if first then
      if c = '"' then
        advance
        return true
      else breached .keyExpected
    else if c = ',' then
      advance
      match (← next?) with
      | none => endedIn .value
      | some '"' =>
        advance
        return true
      | some '}' => breached .trailingComma
      | some _ => breached .keyExpected
    else breached .objectGoesOn

/-- Reads the colon after the name of a member. -/
def colon : Reader Unit := do
  match (← next?) with
  | none => endedIn .object
  | some ':' => advance
  | some _ => breached .colonExpected

/-- Reads the members of an object up to its end. `step` is given each name and reads the rest of
the member, from the colon on. -/
def members {σ : Type} (step : σ → String → Reader σ) :
    (fuel : Nat) → (first : Bool) → σ → Reader σ
  | 0, _, _ => endedIn .object
  | fuel + 1, first, s => do
    if (← hasMember first) then
      let name ← string
      let s ← step s name
      members step fuel false s
    else
      advance
      return s

/-- Reads the members and the end of an object, whose opening brace has been read already. -/
def objectFrom {σ : Type} (step : σ → String → Reader σ) (start : σ) : Reader σ := do
  members step ((← get).length + 1) true start

/-! ## Values -/

/-- Reads any value. -/
def value (depth : Nat) : Reader Json := do
  match (← next?) with
  | none => endedIn .value
  | some 'n' =>
    advance
    word ['u', 'l', 'l']
    return .null
  | some 't' =>
    advance
    word ['r', 'u', 'e']
    return .bool true
  | some 'f' =>
    advance
    word ['a', 'l', 's', 'e']
    return .bool false
  | some '"' =>
    advance
    return .text (← string)
  | some '[' =>
    match depth with
    | 0 => breached .tooDeep
    | depth + 1 =>
      advance
      return .list (← listFrom true (value depth))
  | some '{' =>
    match depth with
    | 0 => breached .tooDeep
    | depth + 1 =>
      advance
      let read ← objectFrom (fun (read : List (String × Json)) name => do
        colon
        let v ← value depth
        return (name, v) :: read) []
      return .object read.reverse
  | some c =>
    if c = '-' ∨ c.isDigit then return (← number).toJson
    else breached .valueExpected

/-- Reports the thing that comes next, where something else was expected. A scalar is read in full
first, and may have a problem of its own. -/
def unexpected {α : Type} (expected : String) : Reader α := do
  match (← next?) with
  | some 'n' =>
    advance
    word ['u', 'l', 'l']
    mismatched (.wrongType .null expected)
  | some 't' =>
    advance
    word ['r', 'u', 'e']
    mismatched (.wrongType (.bool true) expected)
  | some 'f' =>
    advance
    word ['a', 'l', 's', 'e']
    mismatched (.wrongType (.bool false) expected)
  | some '"' =>
    advance
    mismatched (.wrongType (.text (← string)) expected)
  | some '[' => mismatched (.wrongType .list expected)
  | some '{' => mismatched (.wrongType .object expected)
  | some c =>
    if c = '-' ∨ c.isDigit then mismatched (.wrongType (← number).found expected)
    else breached .valueExpected
  | none => endedIn .value

/-! ## Values that nobody asked for -/

mutual

/-- Passes over a value. Every second step at least takes a character, so `fuel` is not used up
when it starts as twice the length of the text. -/
def skipValueWithin : (fuel : Nat) → Reader Unit
  | 0 => endedIn .value
  | fuel + 1 => do
    match (← next?) with
    | none => endedIn .value
    | some 'n' =>
      advance
      word ['u', 'l', 'l']
    | some 't' =>
      advance
      word ['r', 'u', 'e']
    | some 'f' =>
      advance
      word ['a', 'l', 's', 'e']
    | some '"' =>
      advance
      skipString
    | some '[' =>
      advance
      match (← next?) with
      | none => endedIn .list
      | some ']' => advance
      | some _ => skipElements fuel
    | some '{' =>
      advance
      match (← next?) with
      | none => endedIn .object
      | some '}' => advance
      | some _ => skipMembers fuel
    | some '-' =>
      advance
      discard (numberText (.breach .badNumber) true)
    | some c =>
      if c.isDigit then discard (numberText (.breach .badNumber) false)
      else breached .valueExpected

/-- Passes over the elements of a list, of which there is at least one, and its end. -/
def skipElements : (fuel : Nat) → Reader Unit
  | 0 => endedIn .list
  | fuel + 1 => do
    skipValueWithin fuel
    match (← next?) with
    | none => endedIn .list
    | some ']' => advance
    | some ',' =>
      advance
      skipElements fuel
    | some _ => breached .listGoesOn

/-- Passes over the members of an object, of which there is at least one, and its end. -/
def skipMembers : (fuel : Nat) → Reader Unit
  | 0 => endedIn .object
  | fuel + 1 => do
    match (← next?) with
    | none => endedIn .object
    | some '"' =>
      advance
      skipString
      colon
      skipValueWithin fuel
      match (← next?) with
      | none => endedIn .object
      | some '}' => advance
      | some ',' =>
        advance
        skipMembers fuel
      | some _ => breached .objectGoesOn
    | some _ => breached .keyExpected

end

/-- Passes over a value that nobody asked for. -/
def skipValue : Reader Unit := do
  skipValueWithin (2 * (← get).length + 2)

/-- Reads a whole text. Only white space may follow what is wanted. -/
def readAll {α : Type} (reader : Reader α) (text : String) : Except Problem α :=
  match reader text.toList with
  | .error e => .error e
  | .ok (x, rest) =>
    if (rest.dropWhile isSpace).isEmpty then .ok x else .error (.breach .trailingText)

end Gamebook.Json
