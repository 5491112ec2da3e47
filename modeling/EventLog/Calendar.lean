import EventLog.Text.Padding

/-! Instants as milliseconds since 1970-01-01T00:00:00Z, and their text in the proleptic Gregorian
calendar. Years are counted from March, so a leap day is the last day of its year. -/
namespace EventLog.Calendar

structure Date where
  year : Int
  month : Nat
  day : Nat
  deriving DecidableEq, Repr

/-- The day number of a date; day 0 is 1970-01-01. -/
def Date.toDays (d : Date) : Int :=
  let year := if d.month ≤ 2 then d.year - 1 else d.year
  let month : Int := if d.month ≤ 2 then d.month + 9 else d.month - 3
  let dayOfYear := (153 * month + 2) / 5 + d.day - 1
  365 * year + year / 4 - year / 100 + year / 400 + dayOfYear - 719468

/-- A cycle of 400 years has 146097 days, a century 36524, four years 1461, except that the last
of each may have one day more. -/
def Date.ofDays (days : Int) : Date :=
  let shifted := days + 719468
  let cycle := shifted / 146097
  let dayOfCycle := shifted % 146097
  let yearOfCycle :=
    (dayOfCycle - dayOfCycle / 1460 + dayOfCycle / 36524 - dayOfCycle / 146096) / 365
  let dayOfYear := dayOfCycle - (365 * yearOfCycle + yearOfCycle / 4 - yearOfCycle / 100)
  let month := (5 * dayOfYear + 2) / 153
  let day := dayOfYear - (153 * month + 2) / 5 + 1
  let year := 400 * cycle + yearOfCycle
  if month < 10 then ⟨year, (month + 3).toNat, day.toNat⟩
  else ⟨year + 1, (month - 9).toNat, day.toNat⟩

example : Date.ofDays 0 = ⟨1970, 1, 1⟩ := by decide
example : Date.ofDays (-1) = ⟨1969, 12, 31⟩ := by decide
example : Date.ofDays 11016 = ⟨2000, 2, 29⟩ := by decide

/-- Years of the first ten millennia have four digits; other years have a sign and at least four. -/
def yearText (year : Int) : String :=
  if 0 ≤ year ∧ year ≤ 9999 then Text.digits 4 year.toNat
  else (if year < 0 then "-" else "+") ++ Text.digits 4 year.natAbs

def Date.text (d : Date) : String :=
  yearText d.year ++ "-" ++ Text.digits 2 d.month ++ "-" ++ Text.digits 2 d.day

/-- A time of day, given in milliseconds since midnight. -/
def timeText (millis : Nat) : String :=
  Text.digits 2 (millis / 3600000) ++ ":" ++ Text.digits 2 (millis / 60000 % 60) ++ ":"
    ++ Text.digits 2 (millis / 1000 % 60) ++ "." ++ Text.digits 3 (millis % 1000)

def millisPerDay : Int := 86400000

def firstYear : Int := -262143
def lastYear : Int := 262142

/-- An instant outside the calendar's years is written as its plain number. -/
def instantText (millis : Int) : String :=
  let date := Date.ofDays (millis / millisPerDay)
  if firstYear ≤ date.year ∧ date.year ≤ lastYear then
    date.text ++ "T" ++ timeText (millis % millisPerDay).toNat ++ "Z"
  else toString millis

end EventLog.Calendar
