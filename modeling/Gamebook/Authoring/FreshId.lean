import Gamebook.Text.Quoted

/-!
# Fresh ids

Ids for new stories, made from sixteen random bytes as a random UUID without dashes.
-/

namespace Gamebook

/-- The two hexadecimal digits of a byte. -/
def hexByte (b : UInt8) : String :=
  String.ofList (Text.hexDigits (b.toNat / 16) ++ Text.hexDigits (b.toNat % 16))

/-- The byte at a position of a random UUID, with the bits that mark it as one. -/
def markedByte (position : Nat) (b : UInt8) : UInt8 :=
  if position = 6 then (b &&& 0x0F) ||| 0x40
  else if position = 8 then (b &&& 0x3F) ||| 0x80
  else b

/-- The id of a story made from random bytes. -/
def freshId (bytes : List UInt8) : String :=
  "narrative_" ++ String.join (bytes.mapIdx fun i b => hexByte (markedByte i b))

end Gamebook
