import Gamebook.Proofs.Json.ReadBack
import Gamebook.Story.Flag

/-!
# The text of flag values

What is under a flag stands in JSON without a tag, so its kind is told by its text. Truth values,
whole numbers and strings come back as they were. A double may not: the text of one that is no
number is `null`.

## Key results

- `isFloat`: whether a flag holds a double
- `ofJson_toJson`: all other values are taken back from the JSON that they are written as
- `readsBack_form`: and they are read back from its text
-/

namespace Gamebook.FlagValue

/-- Whether a flag holds a double. -/
def isFloat : FlagValue → Bool
  | float _ => true
  | _ => false

/-- What is under a flag is taken back, unless it is a double. -/
theorem ofJson_toJson (v : FlagValue) (hv : v.isFloat = false) : ofJson v.toJson = .ok v := by
  cases v with
  | bool b => rfl
  | text s => rfl
  | float x => cases hv
  | integer n =>
    obtain ⟨hleast, hgreatest, -⟩ := Form.int64_bounds n
    show (if minInt64 ≤ n.toInt ∧ n.toInt ≤ maxInt64 then
      pure (integer (Int64.ofInt n.toInt)) else _) = _
    rw [if_pos ⟨hleast, hgreatest⟩, Int64.ofInt_toInt]
    rfl

/-- What is under a flag is read back as JSON, unless it is a double. -/
theorem readsBack_any_toJson (depth : Nat) (v : FlagValue) (hv : v.isFloat = false) :
    Form.any.ReadsBack depth v.toJson := by
  cases v with
  | bool b => exact Form.readsBack_any_bool depth b
  | text s => exact Form.readsBack_any_text depth s
  | float x => cases hv
  | integer n =>
    obtain ⟨hleast, -, hgreatest⟩ := Form.int64_bounds n
    exact Form.readsBack_any_int depth hleast hgreatest

/-- What is under a flag is read back, unless it is a double. -/
theorem readsBack_form (depth : Nat) (v : FlagValue) (hv : v.isFloat = false) :
    form.ReadsBack depth v :=
  Form.ReadsBack.check (readsBack_any_toJson depth v hv) (ofJson_toJson v hv)

end Gamebook.FlagValue
