import Gamebook.Json.Record
import Gamebook.Story.Flag

/-!
# Actions

What happens to the player when a choice is taken. Actions run in the order in which they are
listed, and each may come with a message.
-/

namespace Gamebook

/-- A change to what is known about the player. -/
inductive Effect where
  | addItem (item : String)
  | removeItem (item : String)
  | setFlag (flag : String) (value : FlagValue)
  /-- Moves the score of a relationship by a difference. -/
  | modifyRelationship (character : String) (difference : Int64)
  | addPoints (points : UInt32)
  /-- Sets the flag that marks a scene as unlocked. -/
  | unlockScene (scene : String)
  deriving DecidableEq

/-- An effect, with what the player is told about it. -/
structure Action where
  effect : Effect
  message : Option String := none
  deriving DecidableEq

namespace Effect

/-- The flag that marks a scene as unlocked. -/
def unlockedFlag (scene : String) : String := "unlocked_" ++ scene

/-- A whole number with its sign. -/
def signed (n : Int) : String := (if n < 0 then "" else "+") ++ toString n

/-- An effect as it is shown to authors. -/
def display : Effect → String
  | addItem item => "add_item " ++ item
  | removeItem item => "remove_item " ++ item
  | setFlag flag value => "set_flag " ++ flag ++ "=" ++ value.display
  | modifyRelationship character difference =>
    "modify_relationship " ++ character ++ " " ++ signed difference.toInt
  | addPoints points => "add_points " ++ toString points.toNat
  | unlockScene scene => "unlock_scene " ++ scene

end Effect

namespace Action

/-- An action as it is shown to authors. -/
def display (a : Action) : String := a.effect.display

/-! ## In JSON -/

/-- The field that holds the message. -/
def messageField : Field (Option String) := .optional "message" .text

/-- The fields of an action that has a target only. -/
def targetFields : Fields [String, Option String] :=
  .cons (.required "target" .text) <| .cons messageField .nil

/-- The fields of an action that has a target and a value. -/
def valueFields {α : Type} (form : Form α) : Fields [String, α, Option String] :=
  .cons (.required "target" .text) <| .cons (.required "value" form) <| .cons messageField .nil

/-- The fields of an action that gives points. -/
def pointsFields : Fields [UInt32, Option String] :=
  .cons (.required "value" .uint32) <| .cons messageField .nil

/-- The kinds of action. -/
def variants : List (Variant Action) :=
  [{ tag := "add_item", label := "GameAction::AddItem", types := _, fields := targetFields
     make := fun (target, message, ()) => ⟨.addItem target, message⟩ },
   { tag := "remove_item", label := "GameAction::RemoveItem", types := _, fields := targetFields
     make := fun (target, message, ()) => ⟨.removeItem target, message⟩ },
   { tag := "set_flag", label := "GameAction::SetFlag", types := _
     fields := valueFields FlagValue.form
     make := fun (target, value, message, ()) => ⟨.setFlag target value, message⟩ },
   { tag := "modify_relationship", label := "GameAction::ModifyRelationship", types := _
     fields := valueFields .int64
     make := fun (target, value, message, ()) => ⟨.modifyRelationship target value, message⟩ },
   { tag := "add_points", label := "GameAction::AddPoints", types := _, fields := pointsFields
     make := fun (value, message, ()) => ⟨.addPoints value, message⟩ },
   { tag := "unlock_scene", label := "GameAction::UnlockScene", types := _, fields := targetFields
     make := fun (target, message, ()) => ⟨.unlockScene target, message⟩ }]

/-- An object that begins with a tag. -/
def taggedObject (tag : String) (members : List (String × Json)) : Json :=
  .object ((Form.tagName, .text tag) :: members)

/-- The JSON value that an action is written as. -/
def toJson (a : Action) : Json :=
  match a.effect with
  | .addItem item => taggedObject "add_item" (targetFields.members (item, a.message, ()))
  | .removeItem item => taggedObject "remove_item" (targetFields.members (item, a.message, ()))
  | .setFlag flag value =>
    taggedObject "set_flag" ((valueFields FlagValue.form).members (flag, value, a.message, ()))
  | .modifyRelationship character difference =>
    taggedObject "modify_relationship"
      ((valueFields .int64).members (character, difference, a.message, ()))
  | .addPoints points => taggedObject "add_points" (pointsFields.members (points, a.message, ()))
  | .unlockScene scene => taggedObject "unlock_scene" (targetFields.members (scene, a.message, ()))

/-- Actions in JSON. -/
def form : Form Action := .tagged "GameAction" variants toJson

end Action

end Gamebook
