import Gamebook.Time.Instant

/-!
# The calendar and its days

A day of an era splits into whole centuries, whole cycles of four years, whole years and the days of
the last year. The last century of an era, the last cycle of most centuries and the last year of a
cycle are a day longer or shorter than the others; `EraDay` says which. From these parts the date of
a day is a date of the calendar, and it names the day again.

## Key results

- `eraDay_exists`: every day of an era has such parts
- `EraDay.yearOfEra_eq`: the parts give the year of the era
- `toDay_ofDay`: the date of a day names that day
- `isValid_ofDay`: the date of a day is one of the calendar
- `year_ofDay_mem`: the years of the days that instants can have
-/

namespace Gamebook.Date

/-- A day of an era as centuries, cycles of four years, years and days. The day that a leap year has
more is the last one of its cycle, and the last cycle of a century has none unless the century is
the last one. -/
structure EraDay (day centuries cycles years days : Nat) : Prop where
  day_eq : day = 36524 * centuries + 1461 * cycles + 365 * years + days
  centuries_le : centuries ≤ 3
  cycles_le : cycles ≤ 24
  years_le : years ≤ 3
  days_le : days ≤ 365
  leapYear : days = 365 → years = 3
  leapCycle : days = 365 → cycles = 24 → centuries = 3

/-- Every day of an era has such parts. -/
theorem eraDay_exists {day : Nat} (hday : day < 146097) :
    ∃ centuries cycles years days, EraDay day centuries cycles years days := by
  obtain ⟨centuries, hcenturies⟩ : ∃ c, c = min (day / 36524) 3 := ⟨_, rfl⟩
  obtain ⟨rest, hrest⟩ : ∃ r, r = day - 36524 * centuries := ⟨_, rfl⟩
  obtain ⟨years, hyears⟩ : ∃ y, y = min (rest % 1461 / 365) 3 := ⟨_, rfl⟩
  -- Counts of centuries and years stop at three, so that the last day of a long one belongs to it.
  refine ⟨centuries, rest / 1461, years, rest % 1461 - 365 * years, ?_, ?_, ?_, ?_, ?_, ?_, ?_⟩
  all_goals omega

variable {day centuries cycles years days : Nat}

/-- Whole years but one have 1460 days in four years: the days counted too many are the leap days
before, and one more on the last days of a cycle. -/
private theorem EraDay.quarters (h : EraDay day centuries cycles years days) :
    day / 1460 = 25 * centuries + cycles ∧ days ≤ 364 ∨
      day / 1460 = 25 * centuries + cycles + 1 ∧ years = 3 ∧ 1 ≤ days := by
  obtain ⟨hday, hcenturies, hcycles, hyears, hdays, hleap, hlast⟩ := h
  obtain ⟨more, hmore⟩ : ∃ n, n = 24 * centuries + cycles + 365 * years + days := ⟨_, rfl⟩
  have hsplit : day = 1460 * (25 * centuries + cycles) + more := by omega
  have hdiv : day / 1460 = 25 * centuries + cycles + more / 1460 := by
    rw [hsplit, Nat.mul_add_div (by decide)]
  by_cases hlow : more < 1460
  · have hzero : more / 1460 = 0 := Nat.div_eq_of_lt hlow
    exact .inl ⟨by omega, by omega⟩
  · have hone : more / 1460 = 1 := by omega
    exact .inr ⟨by omega, by omega, by omega⟩

/-- The last day of an era counts as a century of its own. -/
private theorem EraDay.centuries_eq (h : EraDay day centuries cycles years days) :
    day / 36524 = centuries + day / 146096 := by
  obtain ⟨hday, hcenturies, hcycles, hyears, hdays, hleap, hlast⟩ := h
  obtain ⟨more, hmore⟩ : ∃ n, n = 1461 * cycles + 365 * years + days := ⟨_, rfl⟩
  have hdiv : day / 36524 = centuries + more / 36524 := by
    have hsplit : day = 36524 * centuries + more := by omega
    rw [hsplit, Nat.mul_add_div (by decide)]
  by_cases hlow : more < 36524
  · have hzero : more / 36524 = 0 := Nat.div_eq_of_lt hlow
    omega
  · -- Only the leap day that ends an era is left over.
    have hone : more / 36524 = 1 := by omega
    omega

/-- The parts of a day give the year of the era. -/
theorem EraDay.yearOfEra_eq (h : EraDay day centuries cycles years days) :
    (day - day / 1460 + day / 36524 - day / 146096) / 365 =
      100 * centuries + 4 * cycles + years := by
  have hday := h.day_eq
  have hdays := h.days_le
  -- Without the leap days there are 365 days in every year, and some days of the last one.
  obtain ⟨rest, hrest, hsum⟩ : ∃ rest, rest < 365 ∧
      day - day / 1460 + centuries = 365 * (100 * centuries + 4 * cycles + years) + rest := by
    rcases h.quarters with ⟨hquarters, hlow⟩ | ⟨hquarters, hthree, hpos⟩
    · exact ⟨days, by omega, by rw [hquarters]; omega⟩
    · exact ⟨days - 1, by omega, by rw [hquarters]; omega⟩
  rw [h.centuries_eq, ← Nat.add_assoc, Nat.add_sub_cancel, hsum, Nat.mul_add_div (by decide),
    Nat.div_eq_of_lt hrest, Nat.add_zero]

/-- The days before the year, and the days of the year that are over, make up the day. -/
theorem EraDay.daysBeforeYear_eq (h : EraDay day centuries cycles years days) :
    daysBeforeYear (100 * centuries + 4 * cycles + years) + days = day := by
  have hday := h.day_eq
  have hyears := h.years_le
  have hcycles := h.cycles_le
  have hquarter : (100 * centuries + 4 * cycles + years) / 4 = 25 * centuries + cycles := by omega
  have hcentury : (100 * centuries + 4 * cycles + years) / 100 = centuries := by omega
  unfold daysBeforeYear
  rw [hquarter, hcentury]
  omega

/-! ## Years from March on -/

/-- The date of a day of a year that begins in March. -/
def fromMarch (year : Int) (dayOfYear : Nat) : Date :=
  let marchMonth := (5 * dayOfYear + 2) / 153
  let month := if marchMonth < 10 then marchMonth + 3 else marchMonth - 9
  { year := if month ≤ 2 then year + 1 else year
    month
    day := dayOfYear - daysBeforeMonth marchMonth + 1 }

/-- The date of a day, from the parts of the day. -/
theorem ofDay_eq_fromMarch (n : Int)
    (h : EraDay ((n + daysToEpoch) % daysPerEra).toNat centuries cycles years days) :
    ofDay n =
      fromMarch
        ((n + daysToEpoch) / daysPerEra * 400 + (100 * centuries + 4 * cycles + years : Nat))
        days := by
  have hyear := h.yearOfEra_eq
  have hday : ((n + daysToEpoch) % daysPerEra).toNat -
      daysBeforeYear (100 * centuries + 4 * cycles + years) = days := by
    have hbefore := h.daysBeforeYear_eq
    omega
  unfold ofDay fromMarch
  simp only [hyear, hday]
  rw [Int.add_comm (_ * 400)]

/-- The month and the day of the month, counted from March on, make up the day of the year. -/
private theorem month_cases (dayOfYear : Nat) (h : dayOfYear ≤ 365) :
    ∃ month, (5 * dayOfYear + 2) / 153 = month ∧ month ≤ 11 ∧
      daysBeforeMonth month ≤ dayOfYear ∧ dayOfYear < daysBeforeMonth (month + 1) := by
  unfold daysBeforeMonth
  exact ⟨_, rfl, by omega, by omega, by omega⟩

/-- The date of a day of such a year names the day that lies as many days after the first of March.
-/
theorem toDay_fromMarch (year : Int) (dayOfYear : Nat) (h : dayOfYear ≤ 365) :
    toDay (fromMarch year dayOfYear) =
      year / 400 * daysPerEra + (daysBeforeYear (year % 400).toNat + dayOfYear : Nat) -
        daysToEpoch := by
  obtain ⟨month, hmonth, hle, hbefore, -⟩ := month_cases dayOfYear h
  have hday : daysBeforeMonth month + (dayOfYear - daysBeforeMonth month + 1) - 1 = dayOfYear := by
    omega
  unfold fromMarch toDay
  simp only [hmonth]
  by_cases hearly : month < 10
  · have hlate : ¬ month + 3 ≤ 2 := by omega
    have hback : (month + 3 + 9) % 12 = month := by omega
    simp only [if_pos hearly, if_neg hlate, hback, hday]
  · -- January and February are counted with the year before.
    have hnew : month - 9 ≤ 2 := by omega
    have hback : (month - 9 + 9) % 12 = month := by omega
    have hyear : year + 1 - 1 = year := by omega
    simp only [if_neg hearly, if_pos hnew, hback, hday, hyear]

/-- The last day of a year that begins in March exists if the next year has a leap day. -/
theorem isValid_fromMarch (year : Int) (dayOfYear : Nat) (h : dayOfYear ≤ 365)
    (hleap : dayOfYear = 365 → isLeap (year + 1) = true) :
    (fromMarch year dayOfYear).isValid = true := by
  obtain ⟨month, hmonth, hle, hbefore, hafter⟩ := month_cases dayOfYear h
  unfold fromMarch isValid
  simp only [hmonth, Bool.and_eq_true, decide_eq_true_eq]
  unfold daysBeforeMonth at hbefore hafter ⊢
  refine ⟨by omega, ?_⟩
  by_cases hfebruary : month = 11
  · -- The last month has as many days as the leap day of the next year allows.
    subst hfebruary
    show dayOfYear - 337 + 1 ≤ if isLeap (year + 1) then 29 else 28
    split
    next => omega
    next hno =>
      have hne : dayOfYear ≠ 365 := fun heq => hno (hleap heq)
      omega
  · -- All other months have the same days in every year.
    obtain rfl | rfl | rfl | rfl | rfl | rfl | rfl | rfl | rfl | rfl | rfl : month = 0 ∨
        month = 1 ∨ month = 2 ∨ month = 3 ∨ month = 4 ∨ month = 5 ∨ month = 6 ∨ month = 7 ∨
        month = 8 ∨ month = 9 ∨ month = 10 := by omega
    all_goals
      simp [daysInMonth]
      omega

/-! ## The date of a day -/

/-- The parts of a day of the calendar, within its era. -/
private theorem exists_parts (n : Int) : ∃ centuries cycles years days,
    EraDay ((n + daysToEpoch) % daysPerEra).toNat centuries cycles years days ∧
      n + daysToEpoch = (n + daysToEpoch) / daysPerEra * daysPerEra +
        (((n + daysToEpoch) % daysPerEra).toNat : Int) := by
  have hday : ((n + daysToEpoch) % daysPerEra).toNat < 146097 := by
    unfold daysPerEra
    omega
  obtain ⟨centuries, cycles, years, days, h⟩ := eraDay_exists hday
  refine ⟨centuries, cycles, years, days, h, ?_⟩
  unfold daysPerEra
  omega

/-- The date of a day names that day. -/
theorem toDay_ofDay (n : Int) : toDay (ofDay n) = n := by
  obtain ⟨centuries, cycles, years, days, h, hsum⟩ := exists_parts n
  have hbefore := h.daysBeforeYear_eq
  have hcenturies := h.centuries_le
  have hcycles := h.cycles_le
  have hyears := h.years_le
  rw [ofDay_eq_fromMarch n h, toDay_fromMarch _ _ h.days_le]
  obtain ⟨yearOfEra, hyearOfEra⟩ : ∃ y, y = 100 * centuries + 4 * cycles + years := ⟨_, rfl⟩
  rw [← hyearOfEra] at hbefore ⊢
  have hera : ((n + daysToEpoch) / daysPerEra * 400 + (yearOfEra : Int)) / 400 =
      (n + daysToEpoch) / daysPerEra := by omega
  have hmod : (((n + daysToEpoch) / daysPerEra * 400 + (yearOfEra : Int)) % 400).toNat =
      yearOfEra := by omega
  -- Years and days are within the era, so its number is found again by division.
  rw [hera, hmod, hbefore]
  omega

/-- The date of a day is one of the calendar. -/
theorem isValid_ofDay (n : Int) : (ofDay n).isValid = true := by
  obtain ⟨centuries, cycles, years, days, h, -⟩ := exists_parts n
  rw [ofDay_eq_fromMarch n h]
  refine isValid_fromMarch _ _ h.days_le fun hlast => ?_
  have hthree := h.leapYear hlast
  have hcentury := h.leapCycle hlast
  have hcycles := h.cycles_le
  have hcenturies := h.centuries_le
  unfold isLeap
  simp only [Bool.and_eq_true, Bool.or_eq_true, decide_eq_true_eq]
  by_cases hcycle : cycles = 24
  · -- The last year of a century is a leap year at the end of an era only.
    have hall := hcentury hcycle
    exact ⟨by omega, .inr (by omega)⟩
  · exact ⟨by omega, .inl (by omega)⟩

/-- January and February belong to the year after the one that began in March. -/
private theorem year_fromMarch (year : Int) (dayOfYear : Nat) (h : dayOfYear ≤ 365) :
    (fromMarch year dayOfYear).year = if dayOfYear < 306 then year else year + 1 := by
  obtain ⟨month, hmonth, hle, hbefore, hafter⟩ := month_cases dayOfYear h
  unfold daysBeforeMonth at hbefore hafter
  unfold fromMarch
  simp only [hmonth]
  by_cases hearly : month < 10
  · have hday : dayOfYear < 306 := by omega
    have hlate : ¬ month + 3 ≤ 2 := by omega
    rw [if_pos hearly, if_neg hlate, if_pos hday]
  · have hday : ¬ dayOfYear < 306 := by omega
    have hnew : month - 9 ≤ 2 := by omega
    rw [if_neg hearly, if_pos hnew, if_neg hday]

/-- The years of the days that instants can have. -/
theorem year_ofDay_mem {n : Int} (hlow : -96465292 ≤ n) (hhigh : n ≤ 95026236) :
    -262143 ≤ (ofDay n).year ∧ (ofDay n).year ≤ 262142 := by
  obtain ⟨centuries, cycles, years, days, h, hsum⟩ := exists_parts n
  obtain ⟨era, hera⟩ : ∃ era, era = (n + daysToEpoch) / daysPerEra := ⟨_, rfl⟩
  obtain ⟨day, hday⟩ : ∃ day, day = ((n + daysToEpoch) % daysPerEra).toNat := ⟨_, rfl⟩
  rw [ofDay_eq_fromMarch n h, year_fromMarch _ _ h.days_le, ← hera]
  rw [← hday, ← hera] at hsum
  rw [← hday] at h
  obtain ⟨hparts, hcenturies, hcycles, hyears, hdays, -, -⟩ := h
  unfold daysToEpoch daysPerEra at hsum
  -- The first and the last era are not used in full.
  have hfirst : -656 ≤ era := by omega
  have hlast : era ≤ 655 := by omega
  have hstart : era = -656 → 93808 ≤ day := by omega
  have hend : era = 655 → day ≤ 52169 := by omega
  -- Each century leaves a linear problem.
  obtain rfl | rfl | rfl | rfl :
      centuries = 0 ∨ centuries = 1 ∨ centuries = 2 ∨ centuries = 3 := by omega
  all_goals
    constructor
    all_goals
      split
      all_goals omega

end Gamebook.Date
