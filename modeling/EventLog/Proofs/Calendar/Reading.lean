import EventLog.Event
import EventLog.Proofs.Calendar
import EventLog.Proofs.Json.Numbers
import EventLog.Text.Split

/-! Instants read back from their text: the date by counting days, the time of day by its parts.
Main statement: the text at the front of an event's line says which instant it is, for all words of
64 bits, and within the first ten millennia texts stand in the order of the instants. -/
namespace EventLog

namespace Calendar

open Text Text.Numeral

instance (d : Date) : Decidable d.Valid :=
  decidable_of_iff ((1 ≤ d.month ∧ d.month ≤ 12) ∧ 1 ≤ d.day ∧ d.day ≤ daysOfMonth d.year d.month)
    ⟨fun h => ⟨h.1, h.2⟩, fun h => ⟨h.month, h.day⟩⟩

def signOf (text : List Char) : Int := if text.head? = some '-' then -1 else 1

/-- A year, which may have a sign, a month and a day. -/
def readDate? (text : List Char) : Option Date :=
  match split '-' (unsigned text) with
  | [year, month, day] => do
    let date : Date := ⟨signOf text * (← digits? year), ← digits? month, ← digits? day⟩
    if date.Valid then some date else none
  | _ => none

/-- Milliseconds since midnight. -/
def readTime? (text : List Char) : Option Nat :=
  match split ':' text with
  | [hour, minute, rest] =>
    match split '.' rest with
    | [second, milli] => do
      let hour ← digits? hour
      let minute ← digits? minute
      let second ← digits? second
      let milli ← digits? milli
      if hour < 24 ∧ minute < 60 ∧ second < 60 ∧ milli < 1000 then
        some (3600000 * hour + 60000 * minute + 1000 * second + milli)
      else none
    | _ => none
  | _ => none

/-- Milliseconds since the beginning of 1970, of a date and a time of day in UTC. -/
def readInstant? (text : String) : Option Int :=
  match split 'T' text.toList with
  | [date, time] =>
    match split 'Z' time with
    | [time, []] => do
      let date ← readDate? date
      let time ← readTime? time
      some (date.count * millisPerDay + time)
    | _ => none
  | _ => none

/-- An instant from the beginning of one year to the end of another. -/
def During (first last millis : Int) : Prop :=
  daysToYear first * millisPerDay ≤ millis ∧ millis < daysToYear (last + 1) * millisPerDay

theorem during_iff {first last millis : Int} : During first last millis ↔
    first ≤ (Date.ofDays (millis / millisPerDay)).year ∧
      (Date.ofDays (millis / millisPerDay)).year ≤ last := by
  have start := le_year_ofDays_iff first (millis / millisPerDay)
  have stop := le_year_ofDays_iff (last + 1) (millis / millisPerDay)
  have positive : 0 < millisPerDay := by decide
  rw [Int.le_ediv_iff_mul_le positive] at start stop
  unfold During
  omega

/-! The date. -/

theorem toList_text (d : Date) : d.text.toList = (yearText d.year).toList ++
    '-' :: ((digits 2 d.month).toList ++ '-' :: (digits 2 d.day).toList) := by
  simp [Date.text]

/-- A sign does not stand for a digit. -/
theorem unsigned_digits (width n : Nat) (rest : List Char) :
    ((digits width n).toList ++ rest).head? ≠ some '-' ∧
      unsigned ((digits width n).toList ++ rest) = (digits width n).toList ++ rest := by
  have plus := @notMem_digits '+' rfl width n
  have minus := @notMem_digits '-' rfl width n
  have some : (digits width n).toList ≠ [] := fun none => by
    have read := digits?_digits width n
    rw [none] at read
    cases read
  obtain ⟨c, later, same⟩ := List.exists_cons_of_ne_nil some
  rw [same] at plus minus ⊢
  simp only [List.mem_cons, not_or] at plus minus
  refine ⟨fun head => minus.1 (Option.some.inj head).symm, ?_⟩
  rw [List.cons_append, unsigned]
  · exact fun _ front => minus.1 (List.cons.inj front).1.symm
  · exact fun _ front => plus.1 (List.cons.inj front).1.symm

theorem sign_yearText (year : Int) (rest : List Char) :
    signOf ((yearText year).toList ++ rest) * year.natAbs = year ∧
      unsigned ((yearText year).toList ++ rest) = (digits 4 year.natAbs).toList ++ rest := by
  unfold yearText signOf
  split
  · have plain := unsigned_digits 4 year.toNat rest
    have same : year.natAbs = year.toNat := by omega
    rw [if_neg plain.1, plain.2, same]
    exact ⟨by omega, rfl⟩
  · split
    · refine ⟨?_, by simp [unsigned]⟩
      rw [if_pos (by simp)]
      omega
    · refine ⟨?_, by simp [unsigned]⟩
      rw [if_neg (by simp)]
      omega

theorem readDate?_text {d : Date} (valid : d.Valid) : readDate? d.text.toList = some d := by
  have dash : ∀ width n, '-' ∉ (digits width n).toList := notMem_digits rfl
  obtain ⟨sign, year⟩ := sign_yearText d.year
    ('-' :: ((digits 2 d.month).toList ++ '-' :: (digits 2 d.day).toList))
  rw [readDate?, toList_text, year, split_append_cons (dash _ _), split_append_cons (dash _ _),
    split_of_notMem (dash _ _)]
  simp only [digits?_digits, Option.bind_eq_bind, Option.bind_some, sign]
  exact if_pos valid

/-! The time of day. -/

theorem toList_timeText (millis : Nat) : (timeText millis).toList =
    (digits 2 (millis / 3600000)).toList ++ ':' :: ((digits 2 (millis / 60000 % 60)).toList ++
      ':' :: ((digits 2 (millis / 1000 % 60)).toList ++
        '.' :: (digits 3 (millis % 1000)).toList)) := by
  simp [timeText]

theorem readTime?_timeText {millis : Nat} (inside : millis < 86400000) :
    readTime? (timeText millis).toList = some millis := by
  have colon : ∀ width n, ':' ∉ (digits width n).toList := notMem_digits rfl
  have point : ∀ width n, '.' ∉ (digits width n).toList := notMem_digits rfl
  have rest : ':' ∉ (digits 2 (millis / 1000 % 60)).toList ++
      '.' :: (digits 3 (millis % 1000)).toList := by simp [colon]
  rw [readTime?, toList_timeText, split_append_cons (colon _ _), split_append_cons (colon _ _),
    split_of_notMem rest]
  simp only
  rw [split_append_cons (point _ _), split_of_notMem (point _ _)]
  simp only [digits?_digits, Option.bind_eq_bind, Option.bind_some]
  rw [if_pos (by omega)]
  congr 1
  omega

/-! The instant. -/

theorem instantText_of_during {millis : Int} (h : During firstYear lastYear millis) :
    (instantText millis).toList = (Date.ofDays (millis / millisPerDay)).text.toList ++
      'T' :: ((timeText (millis % millisPerDay).toNat).toList ++ ['Z']) := by
  rw [instantText, if_pos (during_iff.1 h)]
  simp

theorem instantText_of_not_during {millis : Int} (h : ¬ During firstYear lastYear millis) :
    instantText millis = toString millis := by
  rw [instantText, if_neg (mt during_iff.2 h)]

section Characters

variable {c : Char}

theorem notMem_yearText (other : isDigit c = false) (plus : c ≠ '+') (minus : c ≠ '-')
    (year : Int) : c ∉ (yearText year).toList := by
  unfold yearText
  split
  · exact notMem_digits other _ _
  · split <;> simp [notMem_digits other, plus, minus]

theorem notMem_text (other : isDigit c = false) (plus : c ≠ '+') (minus : c ≠ '-') (d : Date) :
    c ∉ d.text.toList := by
  simp [toList_text, notMem_yearText other plus minus, notMem_digits other, minus]

theorem notMem_timeText (other : isDigit c = false) (colon : c ≠ ':') (point : c ≠ '.')
    (millis : Nat) : c ∉ (timeText millis).toList := by
  simp [toList_timeText, notMem_digits other, colon, point]

theorem notMem_toString (other : isDigit c = false) (minus : c ≠ '-') (n : Int) :
    c ∉ (toString n).toList := by
  have digits : c ∉ Nat.toDigits 10 n.natAbs := fun member => by
    rw [isDigit_of_mem_toDigits member] at other
    cases other
  rw [toList_toString]
  split
  · simp [digits, minus]
  · exact digits

end Characters

theorem blank_notMem_instantText (millis : Int) : ' ' ∉ (instantText millis).toList := by
  by_cases inside : During firstYear lastYear millis
  · have date := notMem_text (c := ' ') rfl (by decide) (by decide)
    have time := notMem_timeText (c := ' ') rfl (by decide) (by decide)
    simp [instantText_of_during inside, date, time]
  · rw [instantText_of_not_during inside]
    exact notMem_toString rfl (by decide) millis

theorem readInstant?_of_during {millis : Int} (h : During firstYear lastYear millis) :
    readInstant? (instantText millis) = some millis := by
  have date := notMem_text (c := 'T') rfl (by decide) (by decide)
  have time := notMem_timeText (c := 'T') rfl (by decide) (by decide)
  have zone := notMem_timeText (c := 'Z') rfl (by decide) (by decide)
  have rest : ∀ n, 'T' ∉ (timeText n).toList ++ ['Z'] := by simp [time]
  have positive : 0 < millisPerDay := by decide
  have low := Int.emod_nonneg millis (Int.ne_of_gt positive)
  have high := Int.emod_lt_of_pos millis positive
  have inside : (millis % millisPerDay).toNat < 86400000 := by
    unfold millisPerDay at low high ⊢
    omega
  have whole := Int.mul_ediv_add_emod millis millisPerDay
  rw [readInstant?, instantText_of_during h, split_append_cons (date _), split_of_notMem (rest _)]
  simp only
  rw [split_append_cons (zone _), split_nil]
  simp only [readDate?_text (valid_ofDays _), readTime?_timeText inside, Option.bind_eq_bind,
    Option.bind_some, count_ofDays]
  rw [Int.toNat_of_nonneg low, Int.mul_comm, whole]

theorem readInstant?_of_not_during {millis : Int} (h : ¬ During firstYear lastYear millis) :
    readInstant? (instantText millis) = none := by
  have plain := @notMem_toString 'T' rfl (by decide) millis
  rw [readInstant?, instantText_of_not_during h, split_of_notMem plain]

/-- What is read back, or written as a plain number, is the instant. -/
theorem instantText_inj {first second : Int} (same : instantText first = instantText second) :
    first = second := by
  by_cases inside : During firstYear lastYear first
  · have read := readInstant?_of_during inside
    by_cases inside' : During firstYear lastYear second
    · rw [same, readInstant?_of_during inside'] at read
      exact (Option.some.inj read).symm
    · rw [same, readInstant?_of_not_during inside'] at read
      cases read
  · by_cases inside' : During firstYear lastYear second
    · have read := readInstant?_of_during inside'
      rw [← same, readInstant?_of_not_during inside] at read
      cases read
    · rw [instantText_of_not_during inside, instantText_of_not_during inside'] at same
      have read := Json.integer?_toString first
      rw [same, Json.integer?_toString] at read
      exact (Option.some.inj read).symm

/-! The order. -/

theorem two_digits {n : Nat} (small : n < 100) : (Nat.toDigits 10 n).length ≤ 2 :=
  (Nat.length_toDigits_le_iff (by decide) (by decide)).2 small

theorem three_digits {n : Nat} (small : n < 1000) : (Nat.toDigits 10 n).length ≤ 3 :=
  (Nat.length_toDigits_le_iff (by decide) (by decide)).2 small

theorem four_digits {n : Nat} (small : n < 10000) : (Nat.toDigits 10 n).length ≤ 4 :=
  (Nat.length_toDigits_le_iff (by decide) (by decide)).2 small

theorem Date.Valid.two_digits {d : Date} (h : d.Valid) :
    (Nat.toDigits 10 d.month).length ≤ 2 ∧ (Nat.toDigits 10 d.day).length ≤ 2 := by
  have month := h.month.2
  have day := h.day.2
  have short : daysOfMonth d.year d.month ≤ 31 := by
    unfold daysOfMonth
    split <;> split <;> omega
  exact ⟨Calendar.two_digits (by omega), Calendar.two_digits (by omega)⟩

variable {rest rest' : List Char}

theorem text_lt {d later : Date} (h : d.Valid) (h' : later.Valid) (first : 0 ≤ d.year)
    (last : later.year ≤ 9999) (before : d.Before later) (separator : Char) :
    d.text.toList ++ separator :: rest < later.text.toList ++ separator :: rest' := by
  have order : d.year ≤ later.year := before.elim Int.le_of_lt fun same => Int.le_of_eq same.1
  have year : d.year.toNat < 10000 := by omega
  have year' : later.year.toNat < 10000 := by omega
  rw [toList_text, toList_text, yearText, if_pos ⟨first, Int.le_trans order last⟩, yearText,
    if_pos ⟨Int.le_trans first order, last⟩]
  simp only [List.append_assoc, List.cons_append]
  refine digits_append_lt '-' (four_digits year) (four_digits year') ?_
  rcases before with before | ⟨same, before⟩
  · exact .inl (by omega)
  · refine .inr ⟨congrArg Int.toNat same, digits_append_lt '-' h.two_digits.1 h'.two_digits.1 ?_⟩
    rcases before with before | ⟨same, before⟩
    · exact .inl before
    · exact .inr ⟨same, digits_append_lt separator h.two_digits.2 h'.two_digits.2 (.inl before)⟩

theorem timeText_lt {millis later : Nat} (before : millis < later) (inside : later < 86400000)
    (separator : Char) : (timeText millis).toList ++ separator :: rest <
      (timeText later).toList ++ separator :: rest' := by
  rw [toList_timeText, toList_timeText]
  simp only [List.append_assoc, List.cons_append]
  refine digits_append_lt ':' (two_digits (by omega)) (two_digits (by omega)) ?_
  by_cases hour : millis / 3600000 = later / 3600000
  · refine .inr ⟨hour, digits_append_lt ':' (two_digits (by omega)) (two_digits (by omega)) ?_⟩
    by_cases minute : millis / 60000 = later / 60000
    · refine .inr ⟨by rw [minute], ?_⟩
      refine digits_append_lt '.' (two_digits (by omega)) (two_digits (by omega)) ?_
      by_cases second : millis / 1000 = later / 1000
      · refine .inr ⟨by rw [second], ?_⟩
        exact digits_append_lt separator (three_digits (by omega)) (three_digits (by omega))
          (.inl (by omega))
      · exact .inl (by omega)
    · exact .inl (by omega)
  · exact .inl (by omega)

theorem instantText_lt {millis later : Int} (h : During 0 9999 millis) (h' : During 0 9999 later)
    (before : millis < later) : instantText millis < instantText later := by
  obtain ⟨first, last⟩ := during_iff.1 h
  obtain ⟨first', last'⟩ := during_iff.1 h'
  have written : During firstYear lastYear millis :=
    during_iff.2 (by unfold firstYear lastYear; omega)
  have written' : During firstYear lastYear later :=
    during_iff.2 (by unfold firstYear lastYear; omega)
  show (instantText millis).toList < (instantText later).toList
  rw [instantText_of_during written, instantText_of_during written']
  rcases (by unfold millisPerDay; omega : millis / millisPerDay < later / millisPerDay ∨
    millis / millisPerDay = later / millisPerDay ∧
      (millis % millisPerDay).toNat < (later % millisPerDay).toNat) with day | ⟨day, time⟩
  · rw [← count_ofDays (millis / millisPerDay), ← count_ofDays (later / millisPerDay)] at day
    have order := Date.before_of_count_lt (valid_ofDays _) (valid_ofDays _) day
    exact text_lt (valid_ofDays _) (valid_ofDays _) first last' order 'T'
  · rw [day]
    refine List.append_left_lt (List.cons_lt_cons_iff.2 (.inr ⟨rfl, timeText_lt time ?_ 'Z'⟩))
    unfold millisPerDay
    omega

end Calendar

namespace Event

open Calendar

/-- The part of an event's line in front of the first blank. -/
def shownTime (e : Event) : String := String.ofList (e.line.toList.takeWhile (· ≠ ' '))

theorem shownTime_eq (e : Event) : e.shownTime = instantText e.time.toInt := by
  have clean := blank_notMem_instantText e.time.toInt
  have front : ∀ c ∈ (instantText e.time.toInt).toList, decide (c ≠ ' ') = true := by
    intro c member
    refine decide_eq_true ?_
    rintro rfl
    exact clean member
  unfold shownTime line
  simp only [String.toList_append, List.append_assoc]
  rw [List.takeWhile_append_of_pos front]
  simp

/-- The time shown in front of an event says which instant it is: two events show one text only at
one instant, a date and a time of day in the calendar's years are read back as the instant, an
instant in other years is its plain number, and in the years from 0 to 9999 the texts stand in the
order of the instants. -/
theorem shownTime_exact :
    (∀ e other : Event, e.shownTime = other.shownTime ↔ e.time = other.time) ∧
    (∀ e : Event, During firstYear lastYear e.time.toInt →
      readInstant? e.shownTime = some e.time.toInt) ∧
    (∀ e : Event, ¬ During firstYear lastYear e.time.toInt → e.shownTime = toString e.time.toInt) ∧
    ∀ e other : Event, During 0 9999 e.time.toInt → During 0 9999 other.time.toInt →
      (e.time < other.time ↔ e.shownTime < other.shownTime) := by
  refine ⟨fun e other => ⟨fun same => ?_, fun same => ?_⟩, fun e inside => ?_, fun e outside => ?_,
    fun e other inside inside' => ?_⟩
  · rw [shownTime_eq, shownTime_eq] at same
    exact Int64.toInt_inj.1 (instantText_inj same)
  · rw [shownTime_eq, shownTime_eq, same]
  · rw [shownTime_eq, readInstant?_of_during inside]
  · rw [shownTime_eq, instantText_of_not_during outside]
  · rw [shownTime_eq, shownTime_eq, Int64.lt_iff_toInt_lt]
    refine ⟨instantText_lt inside inside', fun before => ?_⟩
    rcases Int.lt_trichotomy e.time.toInt other.time.toInt with less | same | more
    · exact less
    · rw [same] at before
      exact absurd before (String.lt_irrefl _)
    · exact absurd before (String.lt_asymm (instantText_lt inside' inside more))

/-- An event without a message. -/
def silent (time : Int64) : Event := { severity := .info, message := "", time }

/-- The last millisecond of 1969 and the first of 1970, and the ends of the words. -/
theorem shownTime_exact_limits :
    readInstant? (silent (-1)).shownTime = some (-1) ∧
      (silent (-1)).shownTime < (silent 0).shownTime ∧
      (silent Int64.minValue).shownTime = toString Int64.minValue.toInt ∧
      (silent Int64.minValue).shownTime ≠ (silent Int64.maxValue).shownTime := by
  obtain ⟨same, read, plain, order⟩ := shownTime_exact
  have near : ∀ {first last : Int}, first ≤ 1969 → 1970 ≤ last →
      During first last (-1) ∧ During first last 0 := by
    intro first last low high
    unfold During millisPerDay
    rw [daysToYear_eq, daysToYear_eq, leapsBefore, leapsBefore]
    omega
  have far : ¬ During firstYear lastYear (-9223372036854775808) := by
    unfold During firstYear lastYear millisPerDay
    rw [daysToYear_eq, daysToYear_eq, leapsBefore, leapsBefore]
    decide
  refine ⟨read (silent (-1)) (near (by decide) (by decide)).1, ?_,
    plain (silent Int64.minValue) far, ?_⟩
  · have words : (silent (-1)).time < (silent 0).time := by decide
    have inside := @near 0 9999 (by decide) (by decide)
    exact (order (silent (-1)) (silent 0) inside.1 inside.2).1 words
  · exact mt (same (silent Int64.minValue) (silent Int64.maxValue)).1 (by decide)

end Event
end EventLog
