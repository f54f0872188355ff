/-
  RecordMapper.Calendar.Date
  ────────────────────────────────
  **DATES, TIMES OF DAY AND MOMENTS.**

  A date is a day of the proleptic Gregorian calendar in the years -9999 to
  9999, a time of day counts down to the nanosecond, and a moment is a date with
  a time of day.  Each type holds only values that exist.
-/
namespace RecordMapper.Calendar

/-! ## §1. Dates. -/

/-- A leap year: every fourth, but of the full centuries only every fourth. -/
def isLeapYear (year : Int) : Bool :=
  year % 4 == 0 && (year % 100 != 0 || year % 400 == 0)

/-- How many days a month has; none for a number that is no month. -/
def daysInMonth (year : Int) (month : Nat) : Nat :=
  if month = 2 then (if isLeapYear year then 29 else 28)
  else if month = 4 || month = 6 || month = 9 || month = 11 then 30
  else if 1 ≤ month && month ≤ 12 then 31
  else 0

/-- The three numbers name a day of the calendar. -/
def isDate (year : Int) (month day : Nat) : Bool :=
  -9999 ≤ year && year ≤ 9999 && 1 ≤ day && day ≤ daysInMonth year month

/-- **A date.** -/
structure Date where
  year : Int
  month : Nat
  day : Nat
  valid : isDate year month day = true
  deriving DecidableEq

/-- The date with these numbers, if there is one. -/
def Date.of? (year : Int) (month day : Nat) : Option Date :=
  if valid : isDate year month day = true then some ⟨year, month, day, valid⟩ else none

/-- The date that lies `days` days after the first of January 1970, if it is in
the calendar.  Years are counted from March, so that the leap day ends them. -/
def Date.ofDays? (days : Int) : Option Date :=
  let shifted := days + 719468
  let era := Int.fdiv shifted 146097
  let dayOfEra := (Int.fmod shifted 146097).toNat
  let yearOfEra := (dayOfEra - dayOfEra / 1460 + dayOfEra / 36524 - dayOfEra / 146096) / 365
  let dayOfYear := dayOfEra - (365 * yearOfEra + yearOfEra / 4 - yearOfEra / 100)
  let monthFromMarch := (5 * dayOfYear + 2) / 153
  let day := dayOfYear - (153 * monthFromMarch + 2) / 5 + 1
  let month := if monthFromMarch < 10 then monthFromMarch + 3 else monthFromMarch - 9
  let year := (yearOfEra : Int) + era * 400 + (if month ≤ 2 then 1 else 0)
  Date.of? year month day

/-! ## §2. Times of day. -/

/-- The four numbers name a time of day. -/
def isTimeOfDay (hour minute second nanosecond : Nat) : Bool :=
  hour < 24 && minute < 60 && second < 60 && nanosecond < 1000000000

/-- **A time of day.** -/
structure TimeOfDay where
  hour : Nat
  minute : Nat
  second : Nat
  nanosecond : Nat
  valid : isTimeOfDay hour minute second nanosecond = true
  deriving DecidableEq

/-- The time of day with these numbers, if there is one. -/
def TimeOfDay.of? (hour minute second nanosecond : Nat) : Option TimeOfDay :=
  if valid : isTimeOfDay hour minute second nanosecond = true then
    some ⟨hour, minute, second, nanosecond, valid⟩
  else none

/-- The first instant of a day. -/
def midnight : TimeOfDay := ⟨0, 0, 0, 0, by decide⟩

/-- The time of day that lies `seconds` seconds after midnight, if it is on the
same day. -/
def TimeOfDay.ofSeconds? (seconds : Nat) : Option TimeOfDay :=
  TimeOfDay.of? (seconds / 3600) (seconds / 60 % 60) (seconds % 60) 0

/-! ## §3. Moments. -/

/-- **A moment**: a date and a time of day. -/
structure Moment where
  date : Date
  time : TimeOfDay
  deriving DecidableEq

/-- The moment at which a date begins. -/
def Date.atMidnight (date : Date) : Moment := ⟨date, midnight⟩

/-- **The moment of a count of seconds** since the first of January 1970, if it
is in the calendar. -/
def Moment.ofUnixSeconds? (seconds : Int) : Option Moment := do
  let date ← Date.ofDays? (Int.fdiv seconds 86400)
  let time ← TimeOfDay.ofSeconds? (Int.fmod seconds 86400).toNat
  return ⟨date, time⟩

end RecordMapper.Calendar
