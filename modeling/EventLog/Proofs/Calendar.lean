import EventLog.Calendar
import Mathlib.Tactic.IntervalCases

/-! Dates of the proleptic Gregorian calendar by counting days: the days of whole years, of whole
months and of the month. Main statement: every day has a date of the calendar, and it is that many
days from the beginning of 1970. -/
namespace EventLog.Calendar

/-- Every fourth year, but of the full centuries only every fourth. -/
def IsLeap (year : Int) : Prop := year % 4 = 0 ∧ (year % 100 ≠ 0 ∨ year % 400 = 0)

instance (year : Int) : Decidable (IsLeap year) := inferInstanceAs (Decidable (_ ∧ _))

def daysOfYear (year : Int) : Int := if IsLeap year then 366 else 365

def daysOfMonth (year : Int) (month : Nat) : Nat :=
  if month = 2 then if IsLeap year then 29 else 28
  else if month ∈ [4, 6, 9, 11] then 30
  else 31

/-- A date that there is. -/
structure Date.Valid (d : Date) : Prop where
  month : 1 ≤ d.month ∧ d.month ≤ 12
  day : 1 ≤ d.day ∧ d.day ≤ daysOfMonth d.year d.month

/-- The days of some years, the first of them given. -/
def daysOfYears (first : Int) (years : Nat) : Int :=
  ((List.range years).map fun i : Nat => daysOfYear (first + i)).sum

/-- The days from the beginning of 1970 to that of another year. -/
def daysToYear (year : Int) : Int :=
  if 1970 ≤ year then daysOfYears 1970 (year - 1970).toNat
  else -daysOfYears year (1970 - year).toNat

/-- The days of a year in front of a month. -/
def daysToMonth (year : Int) (month : Nat) : Int :=
  ((List.range (month - 1)).map fun i : Nat => (daysOfMonth year (i + 1) : Int)).sum

/-- The days from the first of January 1970, counted year by year and month by month. -/
def Date.count (d : Date) : Int := daysToYear d.year + daysToMonth d.year d.month + (d.day - 1)

/-! Counts in closed form. -/

/-- The leap days in front of a year. -/
def leapsBefore (year : Int) : Int := (year - 1) / 4 - (year - 1) / 100 + (year - 1) / 400

theorem leapsBefore_succ (year : Int) :
    leapsBefore (year + 1) = leapsBefore year + if IsLeap year then 1 else 0 := by
  unfold leapsBefore
  rw [Int.add_sub_cancel]
  by_cases leap : IsLeap year
  · rw [if_pos leap]
    unfold IsLeap at leap
    omega
  · rw [if_neg leap]
    unfold IsLeap at leap
    omega

theorem daysOfYears_eq (first : Int) (years : Nat) :
    daysOfYears first years = 365 * years + leapsBefore (first + years) - leapsBefore first := by
  induction years with
  | zero => simp [daysOfYears]
  | succ n ih =>
    have leaps := leapsBefore_succ (first + n)
    have next : first + (n + 1 : Nat) = first + n + 1 := by omega
    rw [daysOfYears] at ih ⊢
    rw [List.range_succ, List.map_append, List.sum_append, ih, next, leaps]
    simp only [List.map_cons, List.map_nil, List.sum_cons, List.sum_nil, daysOfYear]
    split <;> omega

theorem daysToYear_eq (year : Int) :
    daysToYear year = 365 * (year - 1970) + leapsBefore year - 477 := by
  have leaps : leapsBefore 1970 = 477 := by decide
  unfold daysToYear
  split
  · have there : 1970 + ((year - 1970).toNat : Int) = year := by omega
    rw [daysOfYears_eq, there]
    omega
  · have there : year + ((1970 - year).toNat : Int) = 1970 := by omega
    rw [daysOfYears_eq, there]
    omega

theorem daysToYear_succ (year : Int) :
    daysToYear (year + 1) = daysToYear year + daysOfYear year := by
  rw [daysToYear_eq, daysToYear_eq, leapsBefore_succ, daysOfYear]
  split <;> omega

theorem daysToMonth_eq (year : Int) {month : Nat} (low : 1 ≤ month) (high : month ≤ 12) :
    daysToMonth year month = if month ≤ 2 then 31 * ((month : Int) - 1)
      else (153 * ((month : Int) - 3) + 2) / 5 + 59 + if IsLeap year then 1 else 0 := by
  by_cases leap : IsLeap year <;> interval_cases month <;>
    simp [daysToMonth, daysOfMonth, List.range_succ, leap]

theorem toDays_eq_count {d : Date} (valid : d.Valid) : d.toDays = d.count := by
  obtain ⟨low, high⟩ := valid.month
  have leaps := leapsBefore_succ d.year
  unfold leapsBefore at leaps
  rw [Int.add_sub_cancel] at leaps
  unfold Date.toDays Date.count
  rw [daysToYear_eq, daysToMonth_eq d.year low high, leapsBefore]
  generalize (if IsLeap d.year then 1 else 0 : Int) = leap at *
  by_cases early : d.month ≤ 2
  · simp only [if_pos early]
    omega
  · simp only [if_neg early]
    omega

/-! Dates in order. -/

theorem daysToYear_le {year later : Int} (h : year ≤ later) :
    daysToYear year ≤ daysToYear later := by
  induction later, h using Int.leInduction with
  | base => exact Int.le_refl _
  | succ later _ ih =>
    have longer : 0 ≤ daysOfYear later := by
      unfold daysOfYear
      split <;> omega
    rw [daysToYear_succ]
    omega

theorem daysToMonth_succ (year : Int) {month : Nat} (low : 1 ≤ month) :
    daysToMonth year (month + 1) = daysToMonth year month + daysOfMonth year month := by
  obtain ⟨before, rfl⟩ := Nat.exists_eq_add_of_le' low
  simp [daysToMonth, List.range_succ]

theorem daysToMonth_le (year : Int) {month later : Nat} (low : 1 ≤ month) (h : month ≤ later) :
    daysToMonth year month ≤ daysToMonth year later := by
  induction later, h using Nat.le_induction with
  | base => exact Int.le_refl _
  | succ later before ih =>
    rw [daysToMonth_succ year (Nat.le_trans low before)]
    omega

theorem daysToMonth_end (year : Int) : daysToMonth year 13 = daysOfYear year := by
  by_cases leap : IsLeap year <;> simp [daysToMonth, daysOfMonth, daysOfYear, List.range_succ, leap]

namespace Date

variable {d later : Date}

/-- A date stands behind the months before its own, and in front of the month after it. -/
theorem Valid.inMonth (h : d.Valid) : daysToYear d.year + daysToMonth d.year d.month ≤ d.count ∧
    d.count < daysToYear d.year + daysToMonth d.year (d.month + 1) := by
  have day := h.day
  rw [daysToMonth_succ d.year h.month.1]
  unfold count
  omega

theorem Valid.inYear (h : d.Valid) :
    daysToYear d.year ≤ d.count ∧ d.count < daysToYear (d.year + 1) := by
  obtain ⟨low, high⟩ := h.month
  have month := h.inMonth
  have first : 0 ≤ daysToMonth d.year d.month := daysToMonth_le d.year (Nat.le_refl 1) low
  have last := daysToMonth_le d.year (by omega) (show d.month + 1 ≤ 13 by omega)
  rw [daysToMonth_end] at last
  rw [daysToYear_succ]
  omega

/-- By the year, then by the month, then by the day. -/
def Before (d later : Date) : Prop :=
  d.year < later.year ∨ d.year = later.year ∧
    (d.month < later.month ∨ d.month = later.month ∧ d.day < later.day)

theorem count_lt (h : d.Valid) (h' : later.Valid) (before : d.Before later) :
    d.count < later.count := by
  rcases before with year | ⟨year, month | ⟨month, day⟩⟩
  · have between := daysToYear_le (Int.add_one_le_of_lt year)
    exact Int.lt_of_lt_of_le h.inYear.2 (Int.le_trans between h'.inYear.1)
  · have between := daysToMonth_le d.year (by omega) (show d.month + 1 ≤ later.month by omega)
    have first := h.inMonth.2
    have second := h'.inMonth.1
    rw [← year] at second
    omega
  · unfold count
    rw [year, month]
    omega

theorem before_or_before (d later : Date) : d.Before later ∨ d = later ∨ later.Before d := by
  obtain ⟨year, month, day⟩ := d
  obtain ⟨year', month', day'⟩ := later
  rw [Date.mk.injEq]
  unfold Before
  dsimp only
  omega

theorem before_of_count_lt (h : d.Valid) (h' : later.Valid) (less : d.count < later.count) :
    d.Before later := by
  rcases before_or_before d later with before | same | after
  · exact before
  · rw [same] at less
    exact absurd less (Int.lt_irrefl _)
  · exact absurd (count_lt h' h after) (Int.lt_asymm less)

end Date

/-! Years from March on. -/

/-- The date of a day of a year that begins in March. -/
def Date.ofMarch (year day : Int) : Date :=
  let month := (5 * day + 2) / 153
  let dayOfMonth := day - (153 * month + 2) / 5 + 1
  if month < 10 then ⟨year, (month + 3).toNat, dayOfMonth.toNat⟩
  else ⟨year + 1, (month - 9).toNat, dayOfMonth.toNat⟩

theorem valid_ofMarch {year day : Int} (low : 0 ≤ day) (high : day ≤ 365)
    (leap : day = 365 → IsLeap (year + 1)) : (Date.ofMarch year day).Valid := by
  obtain ⟨month, is⟩ : ∃ month, month = (5 * day + 2) / 153 := ⟨_, rfl⟩
  have first : 0 ≤ month := by omega
  have last : month ≤ 11 := by omega
  -- The last month is February of the year that has begun.
  have short : ¬ IsLeap (year + 1) → day ≤ 364 := fun other => by
    have := mt leap other
    omega
  unfold Date.ofMarch
  simp only [← is]
  by_cases long : IsLeap (year + 1)
  · interval_cases month <;> refine ⟨⟨?_, ?_⟩, ?_, ?_⟩ <;> simp [daysOfMonth, long] <;> omega
  · have := short long
    interval_cases month <;> refine ⟨⟨?_, ?_⟩, ?_, ?_⟩ <;> simp [daysOfMonth, long] <;> omega

theorem toDays_ofMarch {year day : Int} (low : 0 ≤ day) (high : day ≤ 365) :
    (Date.ofMarch year day).toDays =
      365 * year + year / 4 - year / 100 + year / 400 + day - 719468 := by
  unfold Date.ofMarch Date.toDays
  dsimp only
  split
  · dsimp only
    rw [if_neg (by omega)]
    omega
  · dsimp only
    rw [if_pos (by omega)]
    omega

/-- A day of a cycle of 400 years that begins in March, by the full centuries, spans of four years,
years and days in front of it. The day that a century, a span or the cycle may have more is in its
last year. -/
structure DayOfCycle where
  century : Int
  span : Int
  year : Int
  day : Int
  century_mem : 0 ≤ century ∧ century < 4
  span_mem : 0 ≤ span ∧ span < 25
  year_mem : 0 ≤ year ∧ year < 4
  day_mem : 0 ≤ day ∧ day ≤ 365
  leap : day = 365 → year = 3 ∧ (span = 24 → century = 3)

namespace DayOfCycle

def years (p : DayOfCycle) : Int := 100 * p.century + 4 * p.span + p.year

def days (p : DayOfCycle) : Int := 36524 * p.century + 1461 * p.span + 365 * p.year + p.day

theorem exists_days {day : Int} (low : 0 ≤ day) (high : day < 146097) :
    ∃ p : DayOfCycle, p.days = day := by
  obtain ⟨century, hc⟩ : ∃ c, c = min (day / 36524) 3 := ⟨_, rfl⟩
  obtain ⟨span, hs⟩ : ∃ s, s = min ((day - 36524 * century) / 1461) 24 := ⟨_, rfl⟩
  obtain ⟨year, hy⟩ : ∃ y, y = min ((day - 36524 * century - 1461 * span) / 365) 3 := ⟨_, rfl⟩
  refine ⟨⟨century, span, year, day - 36524 * century - 1461 * span - 365 * year,
    ?_, ?_, ?_, ?_, ?_⟩, ?_⟩
  · omega
  · omega
  · omega
  · omega
  · omega
  · dsimp only [days]
    omega

theorem years_eq (p : DayOfCycle) :
    (p.days - p.days / 1460 + p.days / 36524 - p.days / 146096) / 365 = p.years := by
  obtain ⟨century, span, year, day, century_mem, span_mem, year_mem, day_mem, leap⟩ := p
  obtain ⟨d, hd⟩ : ∃ d, d = 36524 * century + 1461 * span + 365 * year + day := ⟨_, rfl⟩
  simp only [days, years, ← hd]
  by_cases last : d = 146096
  · subst last
    omega
  · have centuries : d / 36524 = century := by omega
    have cycle : d / 146096 = 0 := by omega
    omega

theorem day_eq (p : DayOfCycle) :
    p.days - (365 * p.years + p.years / 4 - p.years / 100) = p.day := by
  obtain ⟨century, span, year, day, century_mem, span_mem, year_mem, day_mem, leap⟩ := p
  obtain ⟨y, hy⟩ : ∃ y, y = 100 * century + 4 * span + year := ⟨_, rfl⟩
  simp only [days, years, ← hy]
  have spans : y / 4 = 25 * century + span := by omega
  have centuries : y / 100 = century := by omega
  omega

/-- The days in front of a year that begins in March. -/
theorem days_to_year (p : DayOfCycle) (cycle : Int) :
    365 * (400 * cycle + p.years) + (400 * cycle + p.years) / 4 - (400 * cycle + p.years) / 100 +
      (400 * cycle + p.years) / 400 = 146097 * cycle + p.days - p.day := by
  obtain ⟨century, span, year, day, century_mem, span_mem, year_mem, day_mem, leap⟩ := p
  obtain ⟨y, hy⟩ : ∃ y, y = 400 * cycle + (100 * century + 4 * span + year) := ⟨_, rfl⟩
  simp only [days, years, ← hy]
  have spans : y / 4 = 100 * cycle + 25 * century + span := by omega
  have centuries : y / 100 = 4 * cycle + century := by omega
  have cycles : y / 400 = cycle := by omega
  omega

theorem isLeap_of_last (p : DayOfCycle) (cycle : Int) (last : p.day = 365) :
    IsLeap (400 * cycle + p.years + 1) := by
  obtain ⟨century, span, year, day, century_mem, span_mem, year_mem, day_mem, leap⟩ := p
  have leap := leap last
  unfold IsLeap years
  dsimp only
  omega

end DayOfCycle

theorem ofDays_eq_ofMarch (n : Int) : ∃ (p : DayOfCycle) (cycle : Int),
    n + 719468 = 146097 * cycle + p.days ∧
      Date.ofDays n = Date.ofMarch (400 * cycle + p.years) p.day := by
  obtain ⟨p, rest⟩ := @DayOfCycle.exists_days ((n + 719468) % 146097) (by omega) (by omega)
  refine ⟨p, (n + 719468) / 146097, by omega, ?_⟩
  unfold Date.ofDays
  simp only [← rest, p.years_eq, p.day_eq]
  rfl

theorem valid_ofDays (n : Int) : (Date.ofDays n).Valid := by
  obtain ⟨p, cycle, -, same⟩ := ofDays_eq_ofMarch n
  rw [same]
  exact valid_ofMarch p.day_mem.1 p.day_mem.2 (p.isLeap_of_last cycle)

theorem toDays_ofDays (n : Int) : (Date.ofDays n).toDays = n := by
  obtain ⟨p, cycle, days, same⟩ := ofDays_eq_ofMarch n
  rw [same, toDays_ofMarch p.day_mem.1 p.day_mem.2, p.days_to_year cycle]
  omega

/-- The date of a day is that many days from the beginning of 1970. -/
theorem count_ofDays (n : Int) : (Date.ofDays n).count = n := by
  rw [← toDays_eq_count (valid_ofDays n), toDays_ofDays]

theorem le_year_ofDays_iff (year n : Int) : year ≤ (Date.ofDays n).year ↔ daysToYear year ≤ n := by
  obtain ⟨first, last⟩ := (valid_ofDays n).inYear
  rw [count_ofDays] at first last
  constructor
  · intro before
    exact Int.le_trans (daysToYear_le before) first
  · intro before
    by_contra after
    have between := daysToYear_le (Int.add_one_le_of_lt (Int.not_le.1 after))
    omega

end EventLog.Calendar
