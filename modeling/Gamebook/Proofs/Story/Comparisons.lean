import Gamebook.Proofs.Decimal.FloatOrder
import Gamebook.Story.Condition

/-!
# Comparisons of flag values

Values of different kinds can stand under one flag, and conditions compare them all. Two numbers or
two texts can be compared, and are then ordered like numbers and texts are; whole numbers and
doubles have one order together. Of all other pairs only two equal truth values are equal, and
nothing is less or greater. So equality is an equivalence, and the order agrees with it.

## Key results

- `Comparable`: which values have an order
- `Gauge`: what a value is compared by, and which gauges are below others
- `looselyEquals_iff`: equal values have the same gauge
- `orders_order`: values are ordered by their gauges, or not at all
- `order_eq_lt_iff`, `order_eq_gt_iff`, `order_eq_eq_iff`: values are ordered like their gauges
- `Operator.compare_none_iff`: what holds of a value that is missing
- `Comparable.trichotomy`: of two comparable values one is below, or they are level
- `operators_agree`: the laws that the operators obey
-/

namespace Gamebook

namespace FlagValue

/-- Whether a value is a double that is no number. -/
def isNaN : FlagValue → Bool
  | float x => Decimal.isNaN x
  | _ => false

/-- Whether a value is a whole number or a double. -/
def isNumber : FlagValue → Bool
  | integer _ | float _ => true
  | _ => false

/-- Whether a value is a text. -/
def isText : FlagValue → Bool
  | text _ => true
  | _ => false

/-- Whether two values have an order: both are numbers, or both are texts. -/
def Comparable (a b : FlagValue) : Prop :=
  a.isNumber = true ∧ b.isNumber = true ∨ a.isText = true ∧ b.isText = true

instance decidableComparable (a b : FlagValue) : Decidable (a.Comparable b) :=
  inferInstanceAs (Decidable (_ ∨ _))

/-! ## Gauges -/

/-- What a value is compared by. -/
inductive Gauge where
  | truth (b : Bool)
  | number (r : EReal)
  | text (s : String)

/-- What a value is compared by: a number by what its double stands for. -/
noncomputable def gauge : FlagValue → Gauge
  | bool b => .truth b
  | integer n => .number (Decimal.number (Decimal.ofInt n.toInt))
  | float x => .number (Decimal.number x)
  | text s => .text s

/-- Whether one gauge is below another one. -/
inductive Gauge.Below : Gauge → Gauge → Prop
  | number {r r' : EReal} (h : r < r') : Below (.number r) (.number r')
  | text {s t : String} (h : s < t) : Below (.text s) (.text t)

/-- What is below something that is below a third gauge is below that. -/
theorem Gauge.Below.trans {f g h : Gauge} (hfg : f.Below g) (hgh : g.Below h) : f.Below h := by
  cases hfg with
  | number hlt => cases hgh with | number hlt' => exact .number (hlt.trans hlt')
  | text hlt => cases hgh with | text hlt' => exact .text (String.lt_trans hlt hlt')

/-- No gauge is below itself. -/
theorem Gauge.Below.irrefl (g : Gauge) : ¬ g.Below g := by
  intro h
  cases h with
  | number hlt => exact lt_irrefl _ hlt
  | text hlt => exact String.lt_irrefl _ hlt

variable {a b c : FlagValue}

/-- It does not matter which of two values is named first. -/
theorem Comparable.symm (h : a.Comparable b) : b.Comparable a := h.imp And.symm And.symm

/-- Only the gauges of comparable values are below one another. -/
theorem comparable_of_below (h : a.gauge.Below b.gauge) : a.Comparable b := by
  -- A gauge is below another one of its own kind only, which fixes the kinds of both values.
  cases a with
  | bool t => cases h
  | text s => cases b with
    | text t => exact .inr ⟨rfl, rfl⟩
    | _ => cases h
  | integer _ | float _ => cases b with
    | integer _ | float _ => exact .inl ⟨rfl, rfl⟩
    | _ => cases h

/-- Of values that cannot be compared only truth values can have the same gauge. -/
theorem gauge_eq_iff (hnot : ¬ a.Comparable b) :
    a.gauge = b.gauge ↔ ∃ t, a = bool t ∧ b = bool t := by
  constructor
  · intro h
    cases a with
    | bool t => cases b with
      | bool u => exact ⟨t, rfl, congrArg bool (Gauge.truth.inj h).symm⟩
      | _ => cases h
    | text s => cases b with
      | text _ => exact absurd (.inr ⟨rfl, rfl⟩) hnot
      | _ => cases h
    | _ => cases b with
      | integer _ | float _ => exact absurd (.inl ⟨rfl, rfl⟩) hnot
      | _ => cases h
  · rintro ⟨t, rfl, rfl⟩
    rfl

/-- What a number is compared by. -/
private theorem exists_toFloat? (hnan : a.isNaN = false) (hnumber : a.isNumber = true) :
    ∃ x, a.toFloat? = some x ∧ Decimal.isNaN x = false ∧ a.gauge = .number (Decimal.number x) := by
  cases a with
  | integer n =>
    have hlow := n.le_toInt
    have hhigh := n.toInt_lt
    exact ⟨_, rfl, Decimal.isNaN_ofInt (by omega), rfl⟩
  | float x => exact ⟨x, rfl, hnan, rfl⟩
  | _ => cases hnumber

/-- Doubles that are numbers have the order of what they stand for. -/
theorem orderFloats_eq {x y : Float} (hx : Decimal.isNaN x = false) (hy : Decimal.isNaN y = false) :
    orderFloats x y = some (compare (Decimal.number x) (Decimal.number y)) := by
  have hlt := Decimal.lt_iff_number_lt hx hy
  have heq := Decimal.beq_iff_number_eq hx hy
  have hgt := Decimal.lt_iff_number_lt hy hx
  unfold orderFloats
  simp only [hlt, heq, hgt]
  rcases lt_trichotomy (Decimal.number x) (Decimal.number y) with h | h | h
  · rw [if_pos h, compare_lt_iff_lt.2 h]
  · rw [if_neg h.not_lt, if_pos h, compare_eq_iff_eq.2 h]
  · rw [if_neg h.not_gt, if_neg h.ne', if_pos h, compare_gt_iff_gt.2 h]

/-- How two values are ordered: by their gauges if they can be compared, and not at all if they
cannot. -/
inductive Orders (a b : FlagValue) : Option Ordering → Prop
  | less (h : a.gauge.Below b.gauge) : Orders a b (some .lt)
  | level (hcomparable : a.Comparable b) (h : a.gauge = b.gauge) : Orders a b (some .eq)
  | greater (h : b.gauge.Below a.gauge) : Orders a b (some .gt)
  | apart (hnot : ¬ a.Comparable b) : Orders a b none

/-- Numbers are ordered like their gauges. -/
private theorem orders_numbers (ha : a.isNaN = false) (hb : b.isNaN = false)
    (hnumbers : a.isNumber = true ∧ b.isNumber = true) : Orders a b (a.order b) := by
  obtain ⟨x, hx, hxnan, hxgauge⟩ := exists_toFloat? ha hnumbers.1
  obtain ⟨y, hy, hynan, hygauge⟩ := exists_toFloat? hb hnumbers.2
  have horder : a.order b = some (compare (Decimal.number x) (Decimal.number y)) := by
    unfold order
    split
    · cases hnumbers.1
    · rw [hx, hy, ← orderFloats_eq hxnan hynan]
  -- The doubles are as the gauges are, in each of the three cases.
  rw [horder]
  rcases lt_trichotomy (Decimal.number x) (Decimal.number y) with h | h | h
  · rw [compare_lt_iff_lt.2 h]
    refine .less ?_
    rw [hxgauge, hygauge]
    exact .number h
  · rw [compare_eq_iff_eq.2 h]
    refine .level (.inl hnumbers) ?_
    rw [hxgauge, hygauge, h]
  · rw [compare_gt_iff_gt.2 h]
    refine .greater ?_
    rw [hxgauge, hygauge]
    exact .number h

/-- Texts are ordered like their gauges. -/
private theorem orders_texts (s t : String) :
    Orders (text s) (text t) ((text s).order (text t)) := by
  show Orders _ _ (some (if s < t then .lt else if s = t then .eq else .gt))
  rcases Std.lt_trichotomy s t with h | h | h
  · rw [if_pos h]
    exact .less (.text h)
  · rw [if_neg (h ▸ String.lt_irrefl s), if_pos h]
    exact .level (.inr ⟨rfl, rfl⟩) (congrArg Gauge.text h)
  · rw [if_neg (String.lt_asymm h), if_neg fun heq : s = t => String.lt_irrefl t (heq ▸ h)]
    exact .greater (.text h)

/-- Values are ordered by their gauges, or not at all. -/
theorem orders_order (ha : a.isNaN = false) (hb : b.isNaN = false) : Orders a b (a.order b) := by
  by_cases hnumbers : a.isNumber = true ∧ b.isNumber = true
  · exact orders_numbers ha hb hnumbers
  · by_cases htexts : a.isText = true ∧ b.isText = true
    · cases a with
      | text s => cases b with
        | text t => exact orders_texts s t
        | _ => cases htexts.2
      | _ => cases htexts.1
    · -- Values of which one is neither a number nor a text, or that are of either kind.
      have hnone : a.order b = none := by
        cases a <;> cases b <;> simp_all [order, isNumber, isText, toFloat?]
      rw [hnone]
      exact .apart (not_or.2 ⟨hnumbers, htexts⟩)

/-- Of the gauges of comparable values one is below the other one, or they are the same. -/
theorem Comparable.trichotomy (ha : a.isNaN = false) (hb : b.isNaN = false)
    (h : a.Comparable b) :
    a.gauge.Below b.gauge ∨ a.gauge = b.gauge ∨ b.gauge.Below a.gauge := by
  have horders := orders_order ha hb
  generalize a.order b = o at horders
  cases horders with
  | less hbelow => exact .inl hbelow
  | level _ heq => exact .inr (.inl heq)
  | greater habove => exact .inr (.inr habove)
  | apart hnot => exact absurd h hnot

/-- Values are equal if they have the same gauge. -/
theorem looselyEquals_iff (ha : a.isNaN = false) (hb : b.isNaN = false) :
    a.looselyEquals b = true ↔ a.gauge = b.gauge := by
  by_cases hnumbers : a.isNumber = true ∧ b.isNumber = true
  · obtain ⟨x, hx, hxnan, hxgauge⟩ := exists_toFloat? ha hnumbers.1
    obtain ⟨y, hy, hynan, hygauge⟩ := exists_toFloat? hb hnumbers.2
    unfold looselyEquals
    rw [hx, hy, hxgauge, hygauge, Gauge.number.injEq]
    exact Decimal.beq_iff_number_eq hxnan hynan
  · -- Then the values themselves are compared, and the gauges tell them apart.
    cases a <;> cases b <;> simp_all [looselyEquals, toFloat?, isNumber, gauge]

/-- A value is less than another one if its gauge is below. -/
theorem order_eq_lt_iff (ha : a.isNaN = false) (hb : b.isNaN = false) :
    a.order b = some .lt ↔ a.gauge.Below b.gauge := by
  have horders := orders_order ha hb
  generalize a.order b = o at horders
  cases horders with
  | less hbelow => exact iff_of_true rfl hbelow
  | level _ heq => exact iff_of_false nofun fun h => Gauge.Below.irrefl _ (heq ▸ h)
  | greater habove => exact iff_of_false nofun fun h => Gauge.Below.irrefl _ (h.trans habove)
  | apart hnot => exact iff_of_false nofun fun h => hnot (comparable_of_below h)

/-- A value is greater than another one if the other gauge is below. -/
theorem order_eq_gt_iff (ha : a.isNaN = false) (hb : b.isNaN = false) :
    a.order b = some .gt ↔ b.gauge.Below a.gauge := by
  have horders := orders_order ha hb
  generalize a.order b = o at horders
  cases horders with
  | less hbelow => exact iff_of_false nofun fun h => Gauge.Below.irrefl _ (h.trans hbelow)
  | level _ heq => exact iff_of_false nofun fun h => Gauge.Below.irrefl _ (heq ▸ h)
  | greater habove => exact iff_of_true rfl habove
  | apart hnot => exact iff_of_false nofun fun h => hnot (comparable_of_below h).symm

/-- Two values are neither less nor greater if they can be compared and have the same gauge. -/
theorem order_eq_eq_iff (ha : a.isNaN = false) (hb : b.isNaN = false) :
    a.order b = some .eq ↔ a.Comparable b ∧ a.gauge = b.gauge := by
  have horders := orders_order ha hb
  generalize a.order b = o at horders
  cases horders with
  | less hbelow => exact iff_of_false nofun fun h => Gauge.Below.irrefl _ (h.2 ▸ hbelow)
  | level hcomparable heq => exact iff_of_true rfl ⟨hcomparable, heq⟩
  | greater habove => exact iff_of_false nofun fun h => Gauge.Below.irrefl _ (h.2 ▸ habove)
  | apart hnot => exact iff_of_false nofun fun h => hnot h.1

end FlagValue

/-! ## Operators -/

namespace Operator

/-- Whether an operator holds between two values. -/
def Relates (op : Operator) (a b : FlagValue) : Prop := op.compare (some a) b = true

instance decidableRelates (op : Operator) (a b : FlagValue) : Decidable (op.Relates a b) :=
  inferInstanceAs (Decidable (_ = true))

/-- Of a value that is missing only the operator for unequal values holds. -/
theorem compare_none_iff (op : Operator) (expected : FlagValue) :
    op.compare none expected = true ↔ op = .ne := by
  cases op <;> simp [compare]

/-- Values are unequal exactly if they are not equal, present or missing. -/
theorem compare_ne (actual : Option FlagValue) (expected : FlagValue) :
    Operator.ne.compare actual expected = !Operator.eq.compare actual expected := rfl

section

variable {a b : FlagValue} (ha : a.isNaN = false) (hb : b.isNaN = false)
include ha hb

/-- Values are equal if they have the same gauge. -/
theorem eq_relates_iff : Operator.eq.Relates a b ↔ a.gauge = b.gauge :=
  FlagValue.looselyEquals_iff ha hb

/-- A value is less if its gauge is below. -/
theorem lt_relates_iff : Operator.lt.Relates a b ↔ a.gauge.Below b.gauge := by
  rw [← FlagValue.order_eq_lt_iff ha hb]
  exact decide_eq_true_iff

/-- A value is greater if the other gauge is below. -/
theorem gt_relates_iff : Operator.gt.Relates a b ↔ b.gauge.Below a.gauge := by
  rw [← FlagValue.order_eq_gt_iff ha hb]
  exact decide_eq_true_iff

/-- A value is less or equal if its gauge is below, or if the two can be compared and are level. Two
equal truth values are not less or equal. -/
theorem le_relates_iff :
    Operator.le.Relates a b ↔ a.gauge.Below b.gauge ∨ a.Comparable b ∧ a.gauge = b.gauge := by
  rw [← FlagValue.order_eq_lt_iff ha hb, ← FlagValue.order_eq_eq_iff ha hb]
  simp [Relates, compare]

/-- Likewise for greater or equal. -/
theorem ge_relates_iff :
    Operator.ge.Relates a b ↔ b.gauge.Below a.gauge ∨ a.Comparable b ∧ a.gauge = b.gauge := by
  rw [← FlagValue.order_eq_gt_iff ha hb, ← FlagValue.order_eq_eq_iff ha hb]
  simp [Relates, compare]

end

end Operator

/-- Whether the kind or the operator of a condition is not known. -/
def Condition.IsUnrecognized (c : Condition) : Prop :=
  (∃ name, c.aspect = .unrecognized name) ∨ ∃ symbol, c.operator = .unrecognized symbol

/-- A condition that is not understood never holds. -/
theorem Condition.IsUnrecognized.holds_eq_false {c : Condition} (h : c.IsUnrecognized)
    (facts : Facts) : c.holds facts = false := by
  obtain ⟨aspect, key, value, op⟩ := c
  rcases h with ⟨name, rfl⟩ | ⟨symbol, rfl⟩
  · rfl
  · cases aspect <;> rfl

/-- A list of conditions one of which is not understood never holds. -/
theorem Condition.IsUnrecognized.allHold_eq_false {c : Condition} (h : c.IsUnrecognized)
    {conditions : List Condition} (hmem : c ∈ conditions) (facts : Facts) :
    Condition.allHold conditions facts = false :=
  List.all_eq_false.2 ⟨c, hmem, by rw [h.holds_eq_false]; exact Bool.false_ne_true⟩

open Operator in
/-- The operators agree with one another, whatever the kinds of the values are: of two values that
can be compared exactly one is less, or they are equal, and of others nothing holds but that two
equal truth values are equal. Equality is an equivalence that the order respects. What is missing is
only unequal, and what is not understood never holds. -/
theorem operators_agree (a b c : FlagValue) (ha : a.isNaN = false) (hb : b.isNaN = false)
    (hc : c.isNaN = false) :
    (a.Comparable b →
      (lt.Relates a b ∨ eq.Relates a b ∨ gt.Relates a b) ∧
      ¬ (lt.Relates a b ∧ eq.Relates a b) ∧ ¬ (eq.Relates a b ∧ gt.Relates a b) ∧
      ¬ (lt.Relates a b ∧ gt.Relates a b) ∧
      (le.Relates a b ↔ lt.Relates a b ∨ eq.Relates a b) ∧
      (ge.Relates a b ↔ gt.Relates a b ∨ eq.Relates a b)) ∧
    (¬ a.Comparable b →
      (∀ op ∈ [lt, gt, le, ge], ¬ op.Relates a b) ∧
      (eq.Relates a b ↔ ∃ t, a = .bool t ∧ b = .bool t)) ∧
    (lt.Relates a b ↔ gt.Relates b a) ∧
    (eq.Relates a a ∧ (eq.Relates a b → eq.Relates b a) ∧
      (eq.Relates a b → eq.Relates b c → eq.Relates a c)) ∧
    (lt.Relates a b → lt.Relates b c → lt.Relates a c) ∧
    (eq.Relates a b →
      (lt.Relates a c ↔ lt.Relates b c) ∧ (lt.Relates c a ↔ lt.Relates c b)) ∧
    (∀ actual expected, ne.compare actual expected = !eq.compare actual expected) ∧
    (∀ op expected, op.compare none expected = true ↔ op = ne) ∧
    (∀ condition : Condition, condition.IsUnrecognized → ∀ facts, condition.holds facts = false ∧
      ∀ conditions, condition ∈ conditions → Condition.allHold conditions facts = false) := by
  refine ⟨fun hcomparable => ?_, fun hnot => ?_, ?_, ⟨?_, ?_, ?_⟩, ?_, fun heq => ?_, compare_ne,
    compare_none_iff, fun condition h facts =>
      ⟨h.holds_eq_false facts, fun _ hmem => h.allHold_eq_false hmem facts⟩⟩
  · rw [lt_relates_iff ha hb, eq_relates_iff ha hb, gt_relates_iff ha hb, le_relates_iff ha hb,
      ge_relates_iff ha hb]
    rw [and_iff_right hcomparable]
    have hirrefl := FlagValue.Gauge.Below.irrefl
    refine ⟨FlagValue.Comparable.trichotomy ha hb hcomparable, fun h => ?_, fun h => ?_,
      fun h => ?_, Iff.rfl, Iff.rfl⟩
    · exact hirrefl _ (h.2 ▸ h.1)
    · exact hirrefl _ (h.1 ▸ h.2)
    · exact hirrefl _ (h.1.trans h.2)
  · have hlt : ¬ a.gauge.Below b.gauge := fun h => hnot (FlagValue.comparable_of_below h)
    have hgt : ¬ b.gauge.Below a.gauge := fun h => hnot (FlagValue.comparable_of_below h).symm
    refine ⟨?_, (eq_relates_iff ha hb).trans (FlagValue.gauge_eq_iff hnot)⟩
    simp only [List.forall_mem_cons, List.not_mem_nil, false_imp_iff, implies_true, and_true]
    rw [lt_relates_iff ha hb, gt_relates_iff ha hb, le_relates_iff ha hb, ge_relates_iff ha hb]
    exact ⟨hlt, hgt, fun h => h.elim hlt fun h => hnot h.1, fun h => h.elim hgt fun h => hnot h.1⟩
  · rw [lt_relates_iff ha hb, gt_relates_iff hb ha]
  · exact (eq_relates_iff ha ha).2 rfl
  · rw [eq_relates_iff ha hb, eq_relates_iff hb ha]
    exact Eq.symm
  · rw [eq_relates_iff ha hb, eq_relates_iff hb hc, eq_relates_iff ha hc]
    exact Eq.trans
  · rw [lt_relates_iff ha hb, lt_relates_iff hb hc, lt_relates_iff ha hc]
    exact FlagValue.Gauge.Below.trans
  -- What has the same gauge is below and above the same values.
  · rw [eq_relates_iff ha hb] at heq
    rw [lt_relates_iff ha hc, lt_relates_iff hb hc, lt_relates_iff hc ha, lt_relates_iff hc hb, heq]
    exact ⟨Iff.rfl, Iff.rfl⟩

open Operator in
/-- A whole number is less than a double, and the double less than the next whole number: so the
whole numbers are in order as well. -/
theorem operators_agree_mixed :
    lt.Relates (.integer 2) (.float 2.5) ∧ lt.Relates (.float 2.5) (.integer 3) ∧
      lt.Relates (.integer 2) (.integer 3) := by
  have hlow : lt.Relates (.integer 2) (.float 2.5) := by decide
  have hhigh : lt.Relates (.float 2.5) (.integer 3) := by decide
  obtain ⟨-, -, -, -, htrans, -⟩ :=
    operators_agree (.integer 2) (.float 2.5) (.integer 3) (by decide) (by decide) (by decide)
  exact ⟨hlow, hhigh, htrans hlow hhigh⟩

end Gamebook
