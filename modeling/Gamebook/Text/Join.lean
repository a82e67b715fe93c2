import Gamebook.Text.CharWidth
import Gamebook.Text.Emoji

/-!
# Characters that share columns

Some characters take fewer columns together than apart: emoji that a joiner or a tone binds, and
letters that their script draws as one sign. A text is measured from its end, so a `Join` says what
the beginning of the text that follows offers to the character before it, and `Join.meet?` says what
that character adds when it accepts.
-/

namespace Gamebook.Text

/-- The letters of Arabic that are an alef. -/
def alefs : CharSet := ⟨
  [0x622, 0x624, 0x625, 0x626, 0x627, 0x628, 0x671, 0x674, 0x675, 0x676,
   0x773, 0x775, 0x870, 0x883]⟩

/-- The letters of Arabic that are a lam. -/
def lams : CharSet := ⟨
  [0x644, 0x645, 0x6B5, 0x6B9, 0x76A, 0x76B, 0x8A6, 0x8A7, 0x8C7, 0x8C8]⟩

/-- The characters without a column that keep a lam and an alef apart. -/
def arabicBreaks : CharSet := ⟨
  [0x605, 0x606, 0x890, 0x892, 0x8E2, 0x8E3, 0x9BE, 0x9BF, 0x9D7, 0x9D8,
   0xB3E, 0xB3F, 0xB57, 0xB58, 0xBBE, 0xBBF, 0xBD7, 0xBD8, 0xCC0, 0xCC1,
   0xCC2, 0xCC3, 0xCC7, 0xCC9, 0xCCA, 0xCCC, 0xCD5, 0xCD7, 0xD3E, 0xD3F,
   0xD4E, 0xD4F, 0xD57, 0xD58, 0xDCF, 0xDD0, 0xDDF, 0xDE0, 0x1160, 0x1200,
   0x1715, 0x1716, 0x1734, 0x1735, 0x180E, 0x180F, 0x1B35, 0x1B36, 0x1B3B, 0x1B3C,
   0x1B3D, 0x1B3E, 0x1B43, 0x1B45, 0x1BAA, 0x1BAB, 0x1BF2, 0x1BF4, 0x200C, 0x200E,
   0x2065, 0x206A, 0x302E, 0x3030, 0x3164, 0x3165, 0xA8FA, 0xA8FB, 0xA953, 0xA954,
   0xA9C0, 0xA9C1, 0xD7B0, 0xD7C7, 0xD7CB, 0xD7FC, 0xFFA0, 0xFFA1, 0xFFF0, 0xFFF9,
   0x111C0, 0x111C1, 0x111C2, 0x111C4, 0x11235, 0x11236, 0x1133E, 0x1133F, 0x1134D, 0x1134E,
   0x11357, 0x11358, 0x113B8, 0x113B9, 0x113C2, 0x113C3, 0x113C5, 0x113C6, 0x113C7, 0x113CA,
   0x113CF, 0x113D0, 0x113D1, 0x113D2, 0x114B0, 0x114B1, 0x114BD, 0x114BE, 0x115AF, 0x115B0,
   0x116B6, 0x116B7, 0x11930, 0x11931, 0x1193D, 0x1193E, 0x1193F, 0x11940, 0x11941, 0x11942,
   0x11A3A, 0x11A3B, 0x11A84, 0x11A8A, 0x11D46, 0x11D47, 0x11DF0, 0x11DF1, 0x11F02, 0x11F03,
   0x11F41, 0x11F42, 0x16FF0, 0x16FF2, 0x1D165, 0x1D167, 0x1D16D, 0x1D173, 0xE0000, 0xE0001,
   0xE0002, 0xE0020, 0xE0080, 0xE0100, 0xE01F0, 0xE1000]⟩

/-- The letters of Khmer that can stand under another letter. -/
def khmerSubscripts : CharSet := ⟨
  [0x1780, 0x1783, 0x1784, 0x1788, 0x1789, 0x178D, 0x178E, 0x1794, 0x1795, 0x1799,
   0x179B, 0x179E, 0x17A0, 0x17A1, 0x17A2, 0x17A3, 0x17A7, 0x17A8, 0x17AB, 0x17AD,
   0x17AF, 0x17B0]⟩

/-- The consonants of Tifinagh. -/
def tifinaghConsonants : CharSet := ⟨[0x2D31, 0x2D66, 0x2D6F, 0x2D70]⟩

/-- The marks that change nothing about how the letters beside them join. -/
def ignorableMarks : CharSet := ⟨
  [0x34F, 0x350, 0x17B4, 0x17B6, 0x180B, 0x180E, 0x180F, 0x1810, 0xFE00, 0xFE10,
   0xE0100, 0xE01F0]⟩

/-- A letter, or the end of a sign of several letters, that can share its column with the letter
before it. -/
inductive Letter where
  /-- An Arabic alef, for a lam. -/
  | alef
  /-- The Hebrew lamed, for an alef and the joiner. -/
  | lamed
  /-- The Buginese ya, for a vowel sign and the joiner. -/
  | ya
  /-- The Buginese ya after that vowel sign, for the vowel's letter. -/
  | yaAfterVowel
  /-- A consonant of Tifinagh, for another one and the joiner. -/
  | tifinagh
  /-- A consonant of Tifinagh after the consonant joiner, for another consonant. -/
  | tifinaghAfterJoiner
  /-- A second tone letter of Lisu, for a first one. -/
  | lisuTone
  /-- The Old Turkic letter i, for the letter that ends in it and the joiner. -/
  | orkhonI
  /-- A letter of Khmer, for the sign that puts it under the letter before. -/
  | khmer
  deriving DecidableEq, Repr

/-- What the beginning of a text offers to the character before it. -/
inductive Join where
  /-- Nothing. -/
  | nothing
  /-- A letter, with the joiner before it or not. -/
  | script (letter : Letter) (joined : Bool)
  /-- The Kirat Rai vowel sign e. -/
  | vowelE
  /-- The Kirat Rai vowel sign ai, which is two signs e. -/
  | vowelAi
  /-- A tone. -/
  | tone
  /-- A letter of flags. -/
  | flagLetter
  /-- Several letters of flags. -/
  | flagLetters
  /-- An emoji. -/
  | emoji
  /-- An emoji with the joiner before it. -/
  | joinedEmoji
  /-- The frame of a key that is joined to an emoji. -/
  | joinedKeycap
  /-- Some letters of flags that are joined to an emoji. -/
  | joinedFlag (letters : Nat)
  /-- The end of the name of a region that is joined to an emoji: first digits, then letters. -/
  | joinedTags (digits letters : Nat)
  deriving DecidableEq, Repr

/-- What a letter's own script makes of the letter and a character before it: the columns that the
character adds, and what it offers in turn. -/
def Letter.merge? (letter : Letter) (joined : Bool) (c : Char) : Option (Int × Join) :=
  match letter with
  | .alef => if lams.contains c then some (0, .nothing) else none
  | .lamed => if joined && c = '\u05D0' then some (0, .nothing) else none
  | .ya => if joined && c = '\u1A17' then some (0, .script .yaAfterVowel true) else none
  | .yaAfterVowel => if c = '\u1A15' then some (0, .nothing) else none
  | .tifinagh =>
    if c = '\u2D7F' then some (1, .script .tifinaghAfterJoiner true)
    else if joined && tifinaghConsonants.contains c then some (0, .nothing)
    else none
  | .tifinaghAfterJoiner => if tifinaghConsonants.contains c then some (-1, .nothing) else none
  | .lisuTone => if isBetween 0xA4F8 0xA4FB c then some (0, .nothing) else none
  | .orkhonI => if joined && c = Char.ofNat 0x10C32 then some (0, .nothing) else none
  | .khmer => if c = '\u17D2' then some (-1, .nothing) else none

namespace Join

/-- Whether ignorable marks can stand between a join and the character before it. -/
def isLetter : Join → Bool
  | .script _ _ => true
  | _ => false

/-- Whether a join makes one emoji with an emoji before it, whose selector may stand between. -/
def isJoined : Join → Bool
  | .joinedEmoji | .joinedKeycap => true
  | _ => false

/-- What a character offers by itself to the character before it. -/
def ofChar (c : Char) : Join :=
  if alefs.contains c then .script .alef false
  else if c = '\u05DC' then .script .lamed false
  else if khmerSubscripts.contains c then .script .khmer false
  else if c = '\u1A10' then .script .ya false
  else if tifinaghConsonants.contains c then .script .tifinagh false
  else if isBetween 0xA4FC 0xA4FD c then .script .lisuTone false
  else if c = Char.ofNat 0x10C03 then .script .orkhonI false
  else if c = Char.ofNat 0x16D67 then .vowelE
  else if c = Char.ofNat 0x16D68 then .vowelAi
  else if isFlagLetter c then .flagLetter
  else if isTone c then .tone
  else if emojiByDefault.contains c then .emoji
  else .nothing

/-- The columns that a character adds by accepting what the text after it offers, and what it offers
in turn; nothing if it does not accept. A character that gives up columns which were counted
already adds a negative number. -/
def meet? (join : Join) (c : Char) : Option (Int × Join) :=
  match join with
  | .nothing => none
  | .script .alef joined =>
    if lams.contains c then Letter.alef.merge? joined c
    else if zeroWidth.contains c && !arabicBreaks.contains c then some (0, .script .alef joined)
    else none
  | .script letter joined =>
    if c = joiner then some (0, .script letter true)
    else if ignorableMarks.contains c then some (0, .script letter joined)
    else letter.merge? joined c
  | .vowelE =>
    if c = Char.ofNat 0x16D63 then some (0, .nothing)
    else if c = Char.ofNat 0x16D67 then some (0, .vowelAi)
    else if c = Char.ofNat 0x16D68 then some (1, .vowelE)
    else if c = Char.ofNat 0x16D69 then some (0, .nothing)
    else none
  | .vowelAi => if c = Char.ofNat 0x16D63 then some (0, .nothing) else none
  | .tone =>
    if tonable.contains c then some (0, .emoji)
    else if c = joiner then some (0, .joinedEmoji)
    else none
  | .flagLetter => if isFlagLetter c then some (1, .flagLetters) else none
  | .flagLetters =>
    if isFlagLetter c then some (1, .flagLetters)
    else if c = joiner then some (0, .joinedEmoji)
    else none
  | .emoji => if c = joiner then some (0, .joinedEmoji) else none
  | .joinedEmoji =>
    if c = keycap then some (0, .joinedKeycap)
    else if isFlagLetter c then some (1, .joinedFlag 1)
    else if isTone c then some (0, .tone)
    else if c = tagEnd then some (0, .joinedTags 0 0)
    else if emojiByDefault.contains c then some (0, .emoji)
    else none
  | .joinedKeycap => none
  | .joinedFlag letters =>
    if isFlagLetter c then some (if letters % 2 = 1 then -1 else 3, .joinedFlag (letters + 1))
    else if 2 ≤ letters && c = joiner then some (0, .joinedEmoji)
    else none
  | .joinedTags 0 letters =>
    if letters ≤ 5 && isTagLetter c then some (0, .joinedTags 0 (letters + 1))
    else if letters ≤ 4 && isTagDigit c then some (0, .joinedTags 1 letters)
    else if 3 ≤ letters && c = blackFlag then some (0, .emoji)
    else none
  | .joinedTags digits letters =>
    if digits ≤ 2 && isTagDigit c then some (0, .joinedTags (digits + 1) letters)
    else if digits = 3 && c = blackFlag then some (0, .emoji)
    else none

end Join

end Gamebook.Text
