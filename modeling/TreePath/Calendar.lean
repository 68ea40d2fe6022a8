/-!
# Days and moments

Days and moments, and how they are written when nothing else is asked for. Writing a moment by a
pattern is the matter of `TreePath.Calendar.Pattern`.

Years are any natural numbers, in the calendar that is in use today, carried back beyond its
beginning. Weeks are counted in three ways, which disagree around the turn of the year; the weeks of
the third way may belong to the year before or after the day's own.
-/

namespace TreePath

/-- A number with at least so many digits. -/
def paddedNumber (width n : Nat) : String :=
  let digits := toString n
  String.ofList (List.replicate (width - digits.length) '0') ++ digits

/-- A day. -/
structure Date where
  /-- The year. -/
  year : Nat
  /-- The month, from one. -/
  month : Nat
  /-- The day of the month, from one. -/
  day : Nat
deriving DecidableEq, Repr

/-- A day in writing: year, month and day between hyphens. -/
def Date.text (d : Date) : String :=
  paddedNumber 1 d.year ++ "-" ++ paddedNumber 2 d.month ++ "-" ++ paddedNumber 2 d.day

namespace Date

/-- Whether a year has a day more than others. -/
def isLeapYear (year : Nat) : Bool :=
  year % 4 == 0 && (year % 100 != 0 || year % 400 == 0)

/-- How many days the months of a year have. -/
def monthLengths (year : Nat) : List Nat :=
  [31, if isLeapYear year then 29 else 28, 31, 30, 31, 30, 31, 31, 30, 31, 30, 31]

/-- How many days of the year are past. -/
def dayOfYear (d : Date) : Nat :=
  ((monthLengths d.year).take (d.month - 1)).foldl (· + ·) 0 + (d.day - 1)

/-- How many days come before the first of January of a year, from that of year zero on. -/
def daysBefore (year : Nat) : Nat :=
  365 * year + (year + 3) / 4 - (year + 99) / 100 + (year + 399) / 400

/-- How many days lie between the first of January 1970 and a day. -/
def daysSinceEpoch (d : Date) : Int :=
  ((daysBefore d.year + d.dayOfYear : Nat) : Int) - (daysBefore 1970 : Nat)

/-- The day of the week, Sunday being zero. -/
def weekday (d : Date) : Nat :=
  ((d.daysSinceEpoch + 4) % 7).toNat

/-- The day of the week, Monday being one and Sunday seven. -/
def isoWeekday (d : Date) : Nat :=
  if d.weekday == 0 then 7 else d.weekday

/-- The week of the year, where the first Sunday starts the first week. -/
def weekFromSunday (d : Date) : Nat :=
  (d.dayOfYear + 7 - d.weekday) / 7

/-- The week of the year, where the first Monday starts the first week. -/
def weekFromMonday (d : Date) : Nat :=
  (d.dayOfYear + 8 - d.isoWeekday) / 7

/-- How many weeks a year has whose first is the one with the first Thursday. -/
def isoWeeks (year : Nat) : Nat :=
  let first := (Date.mk year 1 1).weekday
  if first == 4 || (first == 3 && isLeapYear year) then 53 else 52

/-- The week with the first Thursday of a year is its first: the year and the week of a day. -/
def isoWeek (d : Date) : Nat × Nat :=
  let week := (d.dayOfYear + 11 - d.isoWeekday) / 7
  if week == 0 then (d.year - 1, isoWeeks (d.year - 1))
  else if isoWeeks d.year < week then (d.year + 1, 1)
  else (d.year, week)

/-- The names of the days of the week. -/
def weekdayNames : List String :=
  ["Sunday", "Monday", "Tuesday", "Wednesday", "Thursday", "Friday", "Saturday"]

/-- The names of the months. -/
def monthNames : List String :=
  ["January", "February", "March", "April", "May", "June", "July", "August", "September",
    "October", "November", "December"]

/-- The name of the day of the week. -/
def weekdayName (d : Date) : String :=
  weekdayNames.getD d.weekday ""

/-- The name of the month. -/
def monthName (d : Date) : String :=
  monthNames.getD (d.month - 1) ""

/-- The first of January 1970 was a Thursday in the first week. -/
example : (Date.mk 1970 1 1).weekday = 4 ∧ (Date.mk 1970 1 1).isoWeek = (1970, 1) := by decide

end Date

/-- A moment of a day. -/
structure Moment where
  /-- The day. -/
  date : Date
  /-- The hour. -/
  hour : Nat
  /-- The minute. -/
  minute : Nat
  /-- The second. -/
  second : Nat
  /-- The thousandths of a second. -/
  millisecond : Nat
deriving DecidableEq, Repr

namespace Moment

/-- The time of day in writing. -/
def clockText (m : Moment) : String :=
  paddedNumber 2 m.hour ++ ":" ++ paddedNumber 2 m.minute ++ ":" ++ paddedNumber 2 m.second

/-- A moment in writing, to the thousandth of a second. -/
def text (m : Moment) : String :=
  m.date.text ++ " " ++ m.clockText ++ "," ++ paddedNumber 3 m.millisecond

end Moment

end TreePath
