/-! Days and moments. A moment is a number of nanoseconds, and a day a number of days, since the
beginning of the year 1970. -/

namespace EnvTemplate

/-- So many nanoseconds since the beginning of 1970. -/
abbrev Moment := Int

namespace Calendar

def second : Int := 1000000000

def secondsOfDay : Int := 86400

def isLeap (year : Int) : Bool := year % 4 = 0 && (year % 100 ≠ 0 || year % 400 = 0)

def monthLengths (year : Int) : List Int :=
  [31, if isLeap year then 29 else 28, 31, 30, 31, 30, 31, 31, 30, 31, 30, 31]

def daysBeforeYear (year : Int) : Int :=
  let y := year - 1
  365 * y + y / 4 - y / 100 + y / 400

/-- A day of a month of a year. Months and days that there are not are counted on. -/
structure Date where
  year : Int
  month : Int
  day : Int
  deriving DecidableEq, Repr

namespace Date

def isReal (date : Date) : Bool :=
  1 ≤ date.month && 1 ≤ date.day &&
    match (monthLengths date.year)[(date.month - 1).toNat]? with
    | some length => date.day ≤ length
    | none => false

def number (date : Date) : Int :=
  let year := date.year + (date.month - 1) / 12
  let months := ((date.month - 1) % 12).toNat
  let daysBeforeMonth := ((monthLengths year).take months).foldl (· + ·) 0
  daysBeforeYear year - daysBeforeYear 1970 + daysBeforeMonth + date.day - 1

/-- The month and day at so many days behind the beginning of a year. -/
def within (year : Int) : Int → Int → List Int → Date
  | month, days, [] => ⟨year, month, days + 1⟩
  | month, days, length :: rest =>
    if days < length then ⟨year, month, days + 1⟩ else within year (month + 1) (days - length) rest

def ofNumber (number : Int) : Date :=
  let days := number + daysBeforeYear 1970
  let early := days * 400 / 146097
  let year := ([early + 1, early + 2].filter fun year => daysBeforeYear year ≤ days).getLastD early
  within year 1 (days - daysBeforeYear year) (monthLengths year)

end Date

def weekday (number : Int) : Int := (number + 4) % 7

def dayOf (moment : Moment) : Int := moment / (secondsOfDay * second)

def momentOf (day seconds : Int) : Moment := (day * secondsOfDay + seconds) * second

end Calendar

end EnvTemplate
