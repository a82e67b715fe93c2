import Gamebook.Decimal.Shortest
import Gamebook.Proofs.Decimal.Nearest

/-!
# Digits that read back

The decimal number that is picked for a double rounds to it, and no coarser grid of decimal numbers
has one that does. So if a double is the nearest one to some decimal number, the number that is
picked for it has no digit behind the last one of that number.

## Key results

- `mul_scale_le_iff` / `le_mul_scale_iff`: whole numbers compare bounds with points of a grid
- `contains_of_onGrid?`: what is picked on a grid lies in the interval
- `isSome_onGrid?`: something is picked if any point of the grid lies there
- `exists_fine_grid`: some grid has a point in the interval of each double
- `shortest_spec`, `digits_shortest`: the number that is picked for a double
-/

namespace Gamebook.Decimal

/-! ## Grids -/

/-- The power below the line is positive. -/
theorem powerBelow_pos {base : Nat} (hbase : 0 < base) (exponent : Int) :
    0 < powerBelow base exponent :=
  Nat.pow_pos hbase

/-- Numerator and denominator make up the power. -/
theorem cast_powerAbove {base : Nat} (hbase : 0 < base) (exponent : Int) :
    (powerAbove base exponent : ℚ) = base ^ exponent * powerBelow base exponent := by
  have hne : (base : ℚ) ≠ 0 := by exact_mod_cast hbase.ne'
  unfold powerAbove powerBelow
  show ((base ^ exponent.toNat : Nat) : ℚ) =
    base ^ exponent * ((base ^ (-exponent).toNat : Nat) : ℚ)
  push_cast
  rw [← zpow_natCast, ← zpow_natCast, ← zpow_add₀ hne]
  congr 1
  omega

namespace Interval

/-- What the bounds of an interval are multiplied by to compare them with points of a grid. -/
def scale (interval : Interval) (k : Int) : Nat := powerAbove 2 interval.unit * powerBelow 10 k

/-- What the points of a grid are multiplied by. -/
def grid (interval : Interval) (k : Int) : Nat := powerBelow 2 interval.unit * powerAbove 10 k

/-- A point of a grid in units of an interval. -/
def point (interval : Interval) (k : Int) (n : Nat) : ℚ := n * 10 ^ k / 2 ^ interval.unit

variable {interval : Interval} {k : Int}

/-- What the points of a grid are multiplied by is positive. -/
theorem grid_pos (interval : Interval) (k : Int) : 0 < interval.grid k :=
  Nat.mul_pos (powerBelow_pos (by decide) _) (Nat.pow_pos (by decide))

/-- So is what the bounds are multiplied by. -/
theorem scale_pos (interval : Interval) (k : Int) : 0 < interval.scale k :=
  Nat.mul_pos (Nat.pow_pos (by decide)) (powerBelow_pos (by decide) _)

/-- A point of a grid stands in the same proportion to the unit of an interval as the whole numbers
that are compared. -/
theorem mul_grid (interval : Interval) (k : Int) (n : Nat) :
    (n * interval.grid k : ℚ) = interval.point k n * interval.scale k := by
  have htwo := cast_powerAbove (by decide : 0 < 2) interval.unit
  have hten := cast_powerAbove (by decide : 0 < 10) k
  have hunit := two_zpow_pos interval.unit
  unfold scale grid point
  push_cast at htwo hten ⊢
  rw [htwo, hten]
  field_simp

/-- Bounds are compared with points of a grid as whole numbers. -/
theorem mul_scale_le_iff (a n : Nat) :
    a * interval.scale k ≤ n * interval.grid k ↔ (a : ℚ) ≤ interval.point k n := by
  have hpos : (0 : ℚ) < interval.scale k := by exact_mod_cast interval.scale_pos k
  rw [← mul_le_mul_iff_of_pos_right hpos, ← mul_grid]
  exact_mod_cast Iff.rfl

/-- So are points of a grid with bounds. -/
theorem le_mul_scale_iff (a n : Nat) :
    n * interval.grid k ≤ a * interval.scale k ↔ interval.point k n ≤ (a : ℚ) := by
  have hpos : (0 : ℚ) < interval.scale k := by exact_mod_cast interval.scale_pos k
  rw [← mul_le_mul_iff_of_pos_right hpos, ← mul_grid]
  exact_mod_cast Iff.rfl

/-- Whether a point lies above the lower end of an interval, or on it if it belongs to the interval.
-/
def AboveLow (interval : Interval) (q : ℚ) : Prop :=
  if interval.closed then interval.low ≤ q else interval.low < q

/-- Whether a point lies below the upper end. -/
def BelowHigh (interval : Interval) (q : ℚ) : Prop :=
  if interval.closed then q ≤ interval.high else q < interval.high

/-- An interval contains what is above its lower end and below its upper one. -/
theorem contains_iff (r : ℚ) :
    interval.Contains r ↔
      interval.AboveLow (r / 2 ^ interval.unit) ∧ interval.BelowHigh (r / 2 ^ interval.unit) := by
  unfold Contains AboveLow BelowHigh
  dsimp only
  split <;> exact Iff.rfl

/-- What is above a number that is above the lower end is above that end. -/
theorem AboveLow.mono {q q' : ℚ} (h : interval.AboveLow q) (hle : q ≤ q') :
    interval.AboveLow q' := by
  unfold AboveLow at h ⊢
  split at h <;> simp_all <;> linarith

/-- What is below a number that is below the upper end is below that end. -/
theorem BelowHigh.mono {q q' : ℚ} (h : interval.BelowHigh q') (hle : q ≤ q') :
    interval.BelowHigh q := by
  unfold BelowHigh at h ⊢
  split at h <;> simp_all <;> linarith

/-- Whether a whole number is not above another one, or below it if the interval has no ends. -/
def reaches (interval : Interval) (a b : Nat) : Bool := if interval.closed then a ≤ b else a < b

/-- The test at the lower end says whether a point is above it. -/
theorem reaches_low (interval : Interval) (k : Int) (n : Nat) :
    interval.reaches (interval.low * interval.scale k) (n * interval.grid k) = true ↔
      interval.AboveLow (interval.point k n) := by
  have hle := @mul_scale_le_iff interval k interval.low n
  have hge := @le_mul_scale_iff interval k interval.low n
  unfold reaches AboveLow
  split
  · rw [decide_eq_true_iff, hle]
  · rw [decide_eq_true_iff, ← not_le, hge, not_le]

/-- The test at the upper end says whether a point is below it. -/
theorem reaches_high (interval : Interval) (k : Int) (n : Nat) :
    interval.reaches (n * interval.grid k) (interval.high * interval.scale k) = true ↔
      interval.BelowHigh (interval.point k n) := by
  have hle := @le_mul_scale_iff interval k interval.high n
  have hge := @mul_scale_le_iff interval k interval.high n
  unfold reaches BelowHigh
  split
  · rw [decide_eq_true_iff, hle]
  · rw [decide_eq_true_iff, ← not_le, hge, not_le]

/-- The point of a grid that is not above the value of an interval. -/
def lowerPoint (interval : Interval) (k : Int) : Nat :=
  interval.value * interval.scale k / interval.grid k

/-- What is picked on a grid is told by which of the two neighbours of the value are within reach.
-/
theorem onGrid?_eq (interval : Interval) (tie : Tie) (k : Int) :
    interval.onGrid? tie k =
      if interval.reaches (interval.low * interval.scale k)
          (interval.lowerPoint k * interval.grid k) then
        if interval.reaches ((interval.lowerPoint k + 1) * interval.grid k)
            (interval.high * interval.scale k) then
          if 2 * (interval.value * interval.scale k % interval.grid k) < interval.grid k then
            some (interval.lowerPoint k)
          else if interval.grid k < 2 * (interval.value * interval.scale k % interval.grid k) then
            some (interval.lowerPoint k + 1)
          else some (tie.pick (interval.lowerPoint k))
        else some (interval.lowerPoint k)
      else if interval.reaches ((interval.lowerPoint k + 1) * interval.grid k)
          (interval.high * interval.scale k) then some (interval.lowerPoint k + 1)
      else none := by
  unfold onGrid? reaches lowerPoint scale grid
  dsimp only
  -- The two ends make four cases, in each of which both sides pick the same point.
  split
  next hlow hhigh => simp only [hlow, hhigh, Bool.false_eq_true, ↓reduceIte]
  next hlow hhigh => simp only [hlow, hhigh, Bool.false_eq_true, ↓reduceIte]
  next hlow hhigh => simp only [hlow, hhigh, Bool.false_eq_true, ↓reduceIte]
  next hlow hhigh => simp only [hlow, hhigh, ↓reduceIte]

/-- What is picked on a grid is one of the two neighbours of the value, if one is within reach. -/
theorem onGrid?_spec (interval : Interval) (tie : Tie) (k : Int) :
    let lower := interval.lowerPoint k
    (∀ n, interval.onGrid? tie k = some n →
      n = lower ∧ interval.AboveLow (interval.point k lower) ∨
        n = lower + 1 ∧ interval.BelowHigh (interval.point k (lower + 1))) ∧
    (interval.onGrid? tie k = none →
      ¬ interval.AboveLow (interval.point k lower) ∧
        ¬ interval.BelowHigh (interval.point k (lower + 1))) := by
  intro lower
  have hpick : tie.pick lower = lower ∨ tie.pick lower = lower + 1 := by
    unfold Tie.pick
    cases tie with
    | toEven =>
      dsimp only
      split <;> omega
    | upward => exact .inr rfl
  have hlow := interval.reaches_low k lower
  have hhigh := interval.reaches_high k (lower + 1)
  rw [onGrid?_eq, ← hlow, ← hhigh]
  cases interval.reaches (interval.low * interval.scale k) (lower * interval.grid k) <;>
    cases interval.reaches ((lower + 1) * interval.grid k) (interval.high * interval.scale k)
  -- Neither point is within reach, or just one of them is.
  · simp
  · simp [lower, eq_comm]
  · simp [lower, eq_comm]
  · -- Both are within reach, and one of them is picked.
    simp only [↓reduceIte]
    split
    · simp [lower, eq_comm]
    · split
      · simp [lower, eq_comm]
      · rcases hpick with h | h <;> simp [lower, h, eq_comm]

/-- The neighbours of the value. -/
theorem point_lowerPoint (interval : Interval) (k : Int) :
    interval.point k (interval.lowerPoint k) ≤ interval.value ∧
      interval.value ≤ interval.point k (interval.lowerPoint k + 1) := by
  rw [← le_mul_scale_iff, ← mul_scale_le_iff]
  refine ⟨Nat.div_mul_le_self _ _, (Nat.lt_mul_of_div_lt ?_ (interval.grid_pos k)).le⟩
  exact Nat.lt_succ_self _

/-- The points of a grid are in order. -/
theorem point_le_point (interval : Interval) (k : Int) {n n' : Nat} (hn : n ≤ n') :
    interval.point k n ≤ interval.point k n' := by
  have hunit := two_zpow_pos interval.unit
  have hten : (0 : ℚ) < 10 ^ k := zpow_pos (by norm_num) k
  unfold point
  gcongr

/-- What is picked on a grid lies in the interval, if its value does. -/
theorem contains_of_onGrid? {interval : Interval} {tie : Tie} {k : Int} {n : Nat}
    (hlow : interval.AboveLow interval.value) (hhigh : interval.BelowHigh interval.value)
    (h : interval.onGrid? tie k = some n) : interval.Contains (n * 10 ^ k) := by
  obtain ⟨hbelow, habove⟩ := interval.point_lowerPoint k
  rw [contains_iff]
  rcases (interval.onGrid?_spec tie k).1 n h with ⟨rfl, hreach⟩ | ⟨rfl, hreach⟩
  · exact ⟨hreach, hhigh.mono hbelow⟩
  · exact ⟨hlow.mono habove, hreach⟩

/-- Something is picked on a grid if any of its points lies in the interval. -/
theorem isSome_onGrid? {interval : Interval} (tie : Tie) {k : Int} {n : Nat}
    (h : interval.Contains (n * 10 ^ k)) : (interval.onGrid? tie k).isSome := by
  rw [contains_iff] at h
  rw [Option.isSome_iff_ne_none]
  intro hnone
  obtain ⟨hlow, hhigh⟩ := (interval.onGrid?_spec tie k).2 hnone
  rcases Nat.lt_or_ge (interval.lowerPoint k) n with hlt | hge
  · exact hhigh (h.2.mono (interval.point_le_point k hlt))
  · exact hlow (h.1.mono (interval.point_le_point k hge))

/-- The value of an interval lies above its lower end. -/
theorem aboveLow_around {m : Nat} (hm : 0 < m) (e : Int) :
    (around m e).AboveLow (around m e).value := by
  have hlow : (around m e).low < (around m e).value := by
    unfold around
    dsimp only
    split <;> omega
  have hcast : ((around m e).low : ℚ) < (around m e).value := by exact_mod_cast hlow
  unfold AboveLow
  split
  · exact hcast.le
  · exact hcast

/-- And below its upper end. -/
theorem belowHigh_around (m : Nat) (e : Int) : (around m e).BelowHigh (around m e).value := by
  have hhigh : (around m e).value < (around m e).high := by
    unfold around
    dsimp only
    omega
  have hcast : ((around m e).value : ℚ) < (around m e).high := by exact_mod_cast hhigh
  unfold BelowHigh
  split
  · exact hcast.le
  · exact hcast

end Interval

/-! ## The grids that are tried -/

/-- The grids that are tried have exponents from the least to the greatest. -/
theorem mem_gridExponents_iff {k : Int} : k ∈ gridExponents ↔ -324 ≤ k ∧ k ≤ 309 := by
  unfold gridExponents
  rw [List.mem_map]
  constructor
  · rintro ⟨i, hi, rfl⟩
    have hlt := List.mem_range.1 hi
    simp only [Int.ofNat_eq_natCast]
    omega
  · intro ⟨hlow, hhigh⟩
    refine ⟨(309 - k).toNat, List.mem_range.2 (by omega), ?_⟩
    simp only [Int.ofNat_eq_natCast]
    omega

/-- Coarser grids come first. -/
theorem pairwise_gridExponents : gridExponents.Pairwise (· > ·) := by
  unfold gridExponents
  rw [List.pairwise_map]
  refine List.pairwise_lt_range.imp fun {i j} hij => ?_
  simp only [Int.ofNat_eq_natCast]
  omega

variable {m : Nat} {e : Int}

/-- The last place of a double and its half, in quarters. -/
private theorem quarters (e : Int) :
    (2 : ℚ) ^ e = 4 * 2 ^ (e - 2) ∧ (2 : ℚ) ^ (e - 1) = 2 * 2 ^ (e - 2) := by
  rw [zpow_sub₀ (by norm_num), zpow_sub_one₀ (by norm_num)]
  constructor <;> ring

/-- The power of ten below half of a last place stays within the grids that are tried. -/
private theorem bounds_of_power {k : Int} (hleast : -1074 ≤ e) (hgreatest : e ≤ 971)
    (hk : (10 : ℚ) ^ k ≤ 2 ^ (e - 1)) (hk' : (2 : ℚ) ^ (e - 1) < 10 ^ (k + 1)) :
    -324 ≤ k ∧ k ≤ 309 := by
  constructor
  -- Below the least exponent the unit would be smaller than half of the last place can be.
  · have hpowers : 2 ^ 1075 < 10 ^ 324 := by decide +kernel
    have hcast : (2 : ℚ) ^ 1075 < 10 ^ 324 := by exact_mod_cast hpowers
    have hsmall : (10 : ℚ) ^ (-324 : Int) < 2 ^ (-1075 : Int) := by
      rw [zpow_neg, zpow_neg, zpow_ofNat, zpow_ofNat]
      exact inv_strictAnti₀ (pow_pos (by norm_num) _) hcast
    have hmono : (2 : ℚ) ^ (-1075 : Int) ≤ 2 ^ (e - 1) :=
      zpow_le_zpow_right₀ (by norm_num) (by omega)
    have hlt : (10 : ℚ) ^ (-324 : Int) < 10 ^ (k + 1) := hsmall.trans_le (hmono.trans hk'.le)
    have := (zpow_lt_zpow_iff_right₀ (by norm_num : (1 : ℚ) < 10)).1 hlt
    omega
  -- Above the greatest exponent it would be larger than half of the last place can be.
  · have hpowers : 2 ^ 970 < 10 ^ 309 := by decide +kernel
    have hlarge : (2 : ℚ) ^ (970 : Int) < 10 ^ (309 : Int) := by exact_mod_cast hpowers
    have hmono : (2 : ℚ) ^ (e - 1) ≤ 2 ^ (970 : Int) :=
      zpow_le_zpow_right₀ (by norm_num) (by omega)
    have hlt : (10 : ℚ) ^ k < 10 ^ (309 : Int) := (hk.trans hmono).trans_lt hlarge
    exact ((zpow_lt_zpow_iff_right₀ (by norm_num : (1 : ℚ) < 10)).1 hlt).le

/-- Half of the last place of a double holds a unit of one of the grids, so that some point of this
grid rounds to the double. -/
theorem exists_fine_grid (hm : 0 < m) (hleast : -1074 ≤ e) (hgreatest : e ≤ 971) :
    ∃ k : Int, -324 ≤ k ∧ k ≤ 309 ∧ (2 : ℚ) ^ (e - 1) < 10 ^ (k + 1) ∧
      ∃ n : Nat, RoundsTo (n * 10 ^ k) m e := by
  obtain ⟨k, hk, hk'⟩ := exists_mem_Ico_zpow (two_zpow_pos (e - 1)) (by norm_num : (1 : ℚ) < 10)
  obtain ⟨hlow, hhigh⟩ := bounds_of_power hleast hgreatest hk hk'
  have hten : (0 : ℚ) < 10 ^ k := zpow_pos (by norm_num) k
  -- The point that is not below the value is less than half of the last place away from it.
  obtain ⟨n, hn⟩ : ∃ n : Nat, n = ⌈(m : ℚ) * 2 ^ e / 10 ^ k⌉₊ := ⟨_, rfl⟩
  have habove : (m : ℚ) * 2 ^ e ≤ n * 10 ^ k := by
    rw [← div_le_iff₀ hten, hn]
    exact Nat.le_ceil _
  have hnear : (n : ℚ) * 10 ^ k < m * 2 ^ e + 2 ^ (e - 1) := by
    have hquotient : (0 : ℚ) ≤ m * 2 ^ e / 10 ^ k := by positivity
    have hceil : (n : ℚ) < m * 2 ^ e / 10 ^ k + 1 := hn ▸ Nat.ceil_lt_add_one hquotient
    have hscaled : (n : ℚ) * 10 ^ k < (m * 2 ^ e / 10 ^ k + 1) * 10 ^ k := by gcongr
    rw [add_mul, div_mul_cancel₀ _ hten.ne', one_mul] at hscaled
    linarith
  have hunit := two_zpow_pos (e - 2)
  rw [(quarters e).1, (quarters e).2] at hnear
  rw [(quarters e).1] at habove
  -- So the point is above the lower end, and below the upper one.
  refine ⟨k, hlow, hhigh, hk', n, (Interval.contains_iff _).2 ⟨?_, ?_⟩⟩
  · refine (Interval.aboveLow_around hm e).mono ?_
    show ((4 * m : Nat) : ℚ) ≤ n * 10 ^ k / 2 ^ (e - 2)
    rw [le_div_iff₀ hunit]
    push_cast
    linarith
  · have hhigh : (n : ℚ) * 10 ^ k / 2 ^ (e - 2) < ((4 * m + 2 : Nat) : ℚ) := by
      rw [div_lt_iff₀ hunit]
      push_cast
      linarith
    unfold Interval.BelowHigh
    split
    · exact hhigh.le
    · exact hhigh

/-- The number that is picked for a double rounds to it, and no coarser grid has a number that does.
-/
theorem shortest_spec (tie : Tie) (hm : 0 < m) (hleast : -1074 ≤ e) (hgreatest : e ≤ 971) :
    let number := shortest tie m e
    RoundsTo (number.digits * 10 ^ number.exponent) m e ∧
      -324 ≤ number.exponent ∧ number.exponent ≤ 309 ∧
      ∀ n : Nat, ∀ k, -324 ≤ k → k ≤ 309 → RoundsTo (n * 10 ^ k) m e → k ≤ number.exponent := by
  intro number
  obtain ⟨k, hlow, hhigh, -, n, hn⟩ := exists_fine_grid hm hleast hgreatest
  -- The search asks each grid for a point, and keeps the first that is found.
  obtain ⟨pick, hpick⟩ : ∃ pick : Int → Option Scientific, pick = fun k =>
      ((Interval.around m e).onGrid? tie k).map fun digits => { digits, exponent := k } := ⟨_, rfl⟩
  have hsome : ∀ k, (pick k).isSome = ((Interval.around m e).onGrid? tie k).isSome := fun k => by
    rw [hpick, Option.isSome_map]
  have hfound : (gridExponents.findSome? pick).isSome := by
    rw [List.findSome?_isSome_iff]
    exact ⟨k, mem_gridExponents_iff.2 ⟨hlow, hhigh⟩, hsome k ▸ Interval.isSome_onGrid? tie hn⟩
  obtain ⟨found, hfound⟩ := Option.isSome_iff_exists.1 hfound
  have hnumber : shortest tie m e = found := by
    unfold shortest
    dsimp only
    rw [← hpick, hfound, Option.getD_some]
  simp only [number, hnumber]
  obtain ⟨before, k', after, hgrids, hpicked, hnone⟩ := List.findSome?_eq_some_iff.1 hfound
  rw [hpick] at hpicked
  obtain ⟨digits, hdigits, rfl⟩ := Option.map_eq_some_iff.1 hpicked
  have hbounds := mem_gridExponents_iff.1 (hgrids ▸ List.mem_append_right before List.mem_cons_self)
  refine ⟨Interval.contains_of_onGrid? (Interval.aboveLow_around hm e)
    (Interval.belowHigh_around m e) hdigits, hbounds.1, hbounds.2, fun n k hk hk' hn => ?_⟩
  -- Nothing is picked on the grids before, and those after are finer.
  have hmem : k ∈ before ++ k' :: after := hgrids ▸ mem_gridExponents_iff.2 ⟨hk, hk'⟩
  have hfiner := (List.pairwise_append.1 (hgrids ▸ pairwise_gridExponents)).2.1
  rcases List.mem_append.1 hmem with hbefore | hafter
  · have hpicks := hsome k ▸ Interval.isSome_onGrid? tie hn
    rw [hnone k hbefore] at hpicks
    cases hpicks
  · rcases List.mem_cons.1 hafter with hequal | hafter
    · exact hequal.le
    · exact (List.rel_of_pairwise_cons hfiner hafter).le

/-- What rounds to a positive double is positive. -/
theorem RoundsTo.pos {r : ℚ} (h : RoundsTo r m e) (hm : 0 < m) : 0 < r := by
  have hunit := two_zpow_pos (e - 2)
  -- The lower end of the interval is positive, even where the interval is narrow below.
  have hlow : 0 < (Interval.around m e).low := by
    unfold Interval.around
    dsimp only
    split <;> omega
  have hcast : (0 : ℚ) < (Interval.around m e).low := by exact_mod_cast hlow
  have habove : (Interval.around m e).AboveLow (r / 2 ^ (e - 2)) :=
    ((Interval.contains_iff r).1 h).1
  have hpos : 0 < r / 2 ^ (e - 2) := by
    unfold Interval.AboveLow at habove
    split at habove
    · exact hcast.trans_le habove
    · exact hcast.trans habove
  exact (div_pos_iff_of_pos_right hunit).1 hpos

/-- The number that is picked for a double has digits, and not many. -/
theorem digits_shortest (tie : Tie) (hm : 0 < m) (hleast : -1074 ≤ e) (hgreatest : e ≤ 971) :
    0 < (shortest tie m e).digits ∧ (shortest tie m e).digits < 20 * m + 10 := by
  obtain ⟨hround, -, -, hcoarsest⟩ := shortest_spec tie hm hleast hgreatest
  obtain ⟨k, hlow, hhigh, hfine, n, hn⟩ := exists_fine_grid hm hleast hgreatest
  -- The grid of the number is not finer than one whose unit is near half of the last place.
  have hk := hcoarsest n k hlow hhigh hn
  generalize shortest tie m e = number at hround hk ⊢
  have hten : (0 : ℚ) < 10 ^ number.exponent := zpow_pos (by norm_num) _
  have hunit := two_zpow_pos (e - 2)
  constructor
  · have hpos := (mul_pos_iff_of_pos_right hten).1 (hround.pos hm)
    exact_mod_cast hpos
  · have hend := hround.le_high.1
    rw [div_le_iff₀ hunit] at hend
    have hcoarse : (10 : ℚ) ^ (k + 1) ≤ 10 ^ number.exponent * 10 := by
      rw [← zpow_add_one₀ (by norm_num)]
      exact zpow_le_zpow_right₀ (by norm_num) (by omega)
    have hhalf := (quarters e).2
    have hstep : 2 ^ (e - 2) < 5 * (10 : ℚ) ^ number.exponent := by linarith
    have hscaled : (4 * (m : ℚ) + 2) * 2 ^ (e - 2) < (4 * m + 2) * (5 * 10 ^ number.exponent) := by
      gcongr
    -- Ten units of that grid are at least half of the last place.
    have hdigits : (number.digits : ℚ) < 20 * m + 10 := by
      rw [← mul_lt_mul_iff_of_pos_right hten]
      linarith
    exact_mod_cast hdigits

end Gamebook.Decimal
