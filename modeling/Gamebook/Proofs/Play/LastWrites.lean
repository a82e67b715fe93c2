import Gamebook.Proofs.Play.Accounts

/-!
# What a list of actions does

Actions run one after the other, and each writes to one place: under an item, under a flag, under a
character, or to the points. Of several that write an item or a flag the last one counts.
Differences to a relationship are added up in their order, since a sum that is cut off on the way
may end elsewhere. Whatever no action writes to stays as it is.

## Key results

- `Effect.carries?`, `Effect.sets?`, `Effect.difference?`: what an effect writes under an item, a
  flag or a character
- `inventory_apply`, `flags_apply`, `relationships_apply`: what one effect leaves under a key
- `inventory_applyAll`, `flags_applyAll`, `relationships_applyAll`: what a list of actions leaves
- `last_write_counts`: so a list of actions does what it declares, and nothing else
-/

namespace Gamebook

namespace Effect

/-- Whether the player carries an item after an effect, if that says so. -/
def carries? (item : String) : Effect → Option Bool
  | addItem target => if target = item then some true else none
  | removeItem target => if target = item then some false else none
  | _ => none

/-- What an effect writes under a flag. To unlock a scene is to set the flag with the name of the
scene behind `unlocked_`. -/
def sets? (flag : String) : Effect → Option FlagValue
  | setFlag target value => if target = flag then some value else none
  | unlockScene scene => if "unlocked_" ++ scene = flag then some (.bool true) else none
  | _ => none

/-- What an effect adds to the relationship with a character. -/
def difference? (character : String) : Effect → Option Int64
  | modifyRelationship target difference => if target = character then some difference else none
  | _ => none

end Effect

/-- What the actions of a list write to some place, in order. -/
def Action.writes {α : Type} (written? : Effect → Option α) (actions : List Action) : List α :=
  actions.filterMap fun a => written? a.effect

/-- The sum of two whole numbers, or the nearest signed word of 64 bits. -/
def clampedSum (a b : Int) : Int := max minInt64 (min maxInt64 (a + b))

namespace State

variable {α : Type}

/-! ## One effect -/

/-- An effect writes the item that it carries. -/
theorem inventory_apply (s : State) (effect : Effect) (item : String) :
    (s.apply effect).inventory.get? item = (effect.carries? item).or (s.inventory.get? item) := by
  cases effect with
  | addItem target | removeItem target =>
    simp only [apply, Effect.carries?, Keyed.get?_insert, eq_comm (a := item)]
    split <;> rfl
  | _ => rfl

/-- An effect writes the flag that it sets. -/
theorem flags_apply (s : State) (effect : Effect) (flag : String) :
    (s.apply effect).flags.get? flag = (effect.sets? flag).or (s.flags.get? flag) := by
  cases effect with
  | setFlag target value =>
    simp only [apply, Effect.sets?, Keyed.get?_insert, eq_comm (a := flag)]
    split <;> rfl
  | unlockScene scene =>
    simp only [apply, Effect.sets?, Effect.unlockedFlag, Keyed.get?_insert, eq_comm (a := flag)]
    split <;> rfl
  | _ => rfl

/-- A difference is added to the score, or to zero where there is none. -/
theorem relationships_apply (s : State) (effect : Effect) (character : String) :
    (s.apply effect).relationships.get? character =
      ((effect.difference? character).map (addClamped (s.relationship character))).or
        (s.relationships.get? character) := by
  cases effect with
  | modifyRelationship target difference =>
    simp only [apply, Effect.difference?, Keyed.get?_insert, eq_comm (a := character)]
    split
    next h => rw [h]; rfl
    next => rfl
  | _ => rfl

/-! ## Lists of actions -/

/-- The first action is applied first. -/
theorem applyAll_cons (s : State) (action : Action) (actions : List Action) :
    s.applyAll (action :: actions) = (s.apply action.effect).applyAll actions := rfl

/-- A place in which every write takes the place of the one before ends with the last write. -/
private theorem last_write (place : State → Option α) (written? : Effect → Option α)
    (happly : ∀ s effect, place (s.apply effect) = (written? effect).or (place s)) (s : State)
    (actions : List Action) :
    place (s.applyAll actions) = (Action.writes written? actions).getLast?.or (place s) := by
  -- From any state, since it is changed before the later writes.
  induction actions generalizing s with
  | nil => rfl
  | cons action actions ih =>
    rw [applyAll_cons, ih, happly]
    unfold Action.writes
    rw [List.filterMap_cons]
    -- The first write counts only if no other follows.
    cases written? action.effect with
    | none => rfl
    | some a =>
      rw [List.getLast?_cons]
      cases (actions.filterMap fun a => written? a.effect).getLast? <;> rfl

/-- The last item that is written counts. -/
theorem inventory_applyAll (s : State) (actions : List Action) (item : String) :
    (s.applyAll actions).inventory.get? item =
      (Action.writes (Effect.carries? item) actions).getLast?.or (s.inventory.get? item) :=
  last_write (·.inventory.get? item) (Effect.carries? item)
    (fun s effect => inventory_apply s effect item) s actions

/-- The last flag that is set counts. -/
theorem flags_applyAll (s : State) (actions : List Action) (flag : String) :
    (s.applyAll actions).flags.get? flag =
      (Action.writes (Effect.sets? flag) actions).getLast?.or (s.flags.get? flag) :=
  last_write (·.flags.get? flag) (Effect.sets? flag)
    (fun s effect => flags_apply s effect flag) s actions

/-- Differences are added up from left to right, to the score that there is. Where nothing is added
there may be no score. -/
theorem relationships_applyAll (s : State) (actions : List Action) (character : String) :
    (s.applyAll actions).relationships.get? character =
      if Action.writes (Effect.difference? character) actions = [] then
        s.relationships.get? character
      else
        some ((Action.writes (Effect.difference? character) actions).foldl addClamped
          (s.relationship character)) := by
  induction actions generalizing s with
  | nil => rfl
  | cons action actions ih =>
    rw [applyAll_cons, ih]
    unfold Action.writes relationship
    rw [relationships_apply, List.filterMap_cons]
    -- An action on someone else adds nothing, and leaves the score as it was.
    cases action.effect.difference? character with
    | none => rfl
    | some difference =>
      -- After the first sum there is a score, whether or not more is added to it.
      simp only [Option.map_some, Option.some_or, Option.getD_some, List.foldl_cons,
        reduceCtorEq, if_false]
      split
      next h => rw [h]; rfl
      next => rfl

/-- The differences are added to the score one by one. -/
theorem relationship_applyAll (s : State) (actions : List Action) (character : String) :
    (s.applyAll actions).relationship character =
      (Action.writes (Effect.difference? character) actions).foldl addClamped
        (s.relationship character) := by
  show ((s.applyAll actions).relationships.get? character).getD 0 = _
  rw [relationships_applyAll]
  split
  next h => rw [h]; rfl
  next => rfl

/-- Sums of words are sums of whole numbers that are cut off at each step. -/
theorem toInt_foldl_addClamped (differences : List Int64) (score : Int64) :
    (differences.foldl addClamped score).toInt =
      (differences.map Int64.toInt).foldl clampedSum score.toInt := by
  induction differences generalizing score with
  | nil => rfl
  | cons difference differences ih =>
    -- Every single sum is cut off to what a word holds, in both folds at the same place.
    rw [List.foldl_cons, ih, toInt_addClamped]
    rfl

/-- Actions that run in order do what they declare. Whether an item is carried, and what is under a
flag, is said by the last action that writes there, or as before if none does. A relationship is the
sum of its score and the differences, cut off at each step to a signed word of 64 bits; the points
are the sum of the points before and those of the actions, up to the greatest word of 32 bits. All
else stays as it is: what is kept under a key that no action writes to, and the other fields. -/
theorem last_write_counts (s : State) (actions : List Action) :
    let t := s.applyAll actions
    (∀ item, t.hasItem item =
      (Action.writes (Effect.carries? item) actions).getLast?.getD (s.hasItem item)) ∧
    (∀ flag, t.flag? flag =
      (Action.writes (Effect.sets? flag) actions).getLast?.or (s.flag? flag)) ∧
    (∀ character, (t.relationship character).toInt =
      ((Action.writes (Effect.difference? character) actions).map Int64.toInt).foldl clampedSum
        (s.relationship character).toInt) ∧
    t.totalPoints.toNat =
      min maxUInt32 (s.totalPoints.toNat + (actions.map (·.effect.points)).sum) ∧
    (∀ item, t.inventory.get? item =
      (Action.writes (Effect.carries? item) actions).getLast?.or (s.inventory.get? item)) ∧
    (∀ character, t.relationships.get? character =
      if Action.writes (Effect.difference? character) actions = [] then
        s.relationships.get? character
      else some (t.relationship character)) ∧
    Framed s t := by
  intro t
  refine ⟨fun item => ?_, flags_applyAll s actions, fun character => ?_,
    toNat_totalPoints_applyAll s actions, inventory_applyAll s actions, fun character => ?_,
    framed_applyAll s actions⟩
  · show (t.inventory.get? item).getD false = _
    rw [inventory_applyAll]
    cases (Action.writes (Effect.carries? item) actions).getLast? <;> rfl
  · rw [relationship_applyAll, toInt_foldl_addClamped]
  · rw [relationship_applyAll, relationships_applyAll]

/-- Two flags with one name, an item that is given and taken, and scores that meet their bounds on
the way. -/
example :
    let s : State := .start { relationships := Keyed.empty.insert "owl" 5 } "hall" .epoch
    let t := s.applyAll
      [{ effect := .setFlag "unlocked_attic" (.integer 1) }, { effect := .addItem "key" },
        { effect := .modifyRelationship "owl" 9223372036854775807 },
        { effect := .unlockScene "attic" }, { effect := .removeItem "key" },
        { effect := .modifyRelationship "owl" (-7) }, { effect := .addPoints 4294967295 },
        { effect := .addPoints 2 }]
    t.flag? "unlocked_attic" = some (.bool true) ∧ t.hasItem "key" = false ∧
    t.relationship "owl" = 9223372036854775800 ∧ t.totalPoints = 4294967295 := by
  decide

end State

end Gamebook
