import EnvTemplate.Child.Moment.Item

/-! The moment that a text describes, seen from another one. -/

namespace EnvTemplate.Child.Moment

structure Phrase where
  year : Year
  month : Int
  day : Int
  hour : Int
  minute : Int
  nanoseconds : Int
  half : Option Bool
  ordinal : Int
  weekday : Int
  zone : Int
  distance : Distance
  dates : Nat
  weekdays : Nat
  times : Nat
  zones : Nat
  moves : Bool
  deriving DecidableEq, Repr

namespace Phrase

def start (now : EnvTemplate.Moment) : Phrase :=
  let date := Calendar.Date.ofNumber (Calendar.dayOf now)
  let seconds := now / Calendar.second % Calendar.secondsOfDay
  { year := ⟨date.year, 0⟩, month := date.month, day := date.day
    hour := seconds / 3600, minute := seconds / 60 % 60
    nanoseconds := seconds % 60 * Calendar.second + now % Calendar.second
    half := none, ordinal := 0, weekday := 0, zone := 0, distance := .none
    dates := 0, weekdays := 0, times := 0, zones := 0, moves := false }

def addDigits (p : Phrase) (value : Int) (count : Nat) : Phrase :=
  if p.dates ≠ 0 ∧ p.year.digits = 0 ∧ !p.moves ∧ (p.times ≠ 0 ∨ 2 < count) then
    { p with year := ⟨value, count⟩ }
  else if 4 < count then
    { p with
      dates := p.dates + 1, day := value % 100, month := value / 100 % 100
      year := ⟨value / 10000, count - 4⟩ }
  else
    { p with
      times := p.times + 1, nanoseconds := 0, half := none
      hour := if count ≤ 2 then value else value / 100
      minute := if count ≤ 2 then 0 else value % 100 }

def add (p : Phrase) : Item → Phrase
  | .clock hour minute nanoseconds half =>
    { p with
      times := p.times + 1, hour := hour, minute := minute, nanoseconds := nanoseconds
      half := half }
  | .date year month day =>
    { p with dates := p.dates + 1, year := year.getD p.year, month := month, day := day }
  | .weekday ordinal number =>
    { p with weekdays := p.weekdays + 1, ordinal := ordinal, weekday := number }
  | .zone offset => { p with zones := p.zones + 1, zone := offset }
  | .here => { p with zones := p.zones + 1 }
  | .move distance => { p with moves := true, distance := p.distance.add distance }
  | .bare value count => p.addDigits value count

def fullYear (year : Year) : Int :=
  if year.value < 0 then -year.value
  else if year.digits = 2 then year.value + if year.value < 69 then 2000 else 1900
  else year.value

def fullHour? (hour : Int) : Option Bool → Option Int
  | none => if 0 ≤ hour ∧ hour < 24 then some hour else none
  | some isSecond =>
    if hour < 1 ∨ 12 < hour then none
    else some (hour % 12 + if isSecond then 12 else 0)

def maxYear : Int := 2147485547

def moment? (p : Phrase) : Option EnvTemplate.Moment :=
  let hasTime := p.times ≠ 0 || p.moves && p.dates = 0 && p.weekdays = 0
  let date : Calendar.Date := ⟨fullYear p.year, p.month, p.day⟩
  let hour? := if hasTime then fullHour? p.hour p.half else some 0
  let minute := if hasTime then p.minute else 0
  let nanoseconds := if hasTime then p.nanoseconds else 0
  let isSingle := p.dates ≤ 1 && p.weekdays ≤ 1 && p.times ≤ 1 && p.zones ≤ 1
  let isReal := date.isReal && decide (0 ≤ minute) && decide (minute < 60) &&
    decide (nanoseconds < 60 * Calendar.second) && decide (date.year ≤ maxYear)
  match hour? with
  | none => none
  | some hour =>
    if !isSingle || !isReal then none
    else
      let first := date.number
      let ahead := (p.weekday - Calendar.weekday first) % 7
      let weeks := if 0 < p.ordinal ∧ ahead ≠ 0 then p.ordinal - 1 else p.ordinal
      let days := if p.weekdays ≠ 0 && p.dates = 0 then ahead + 7 * weeks else 0
      let counted := Calendar.Date.ofNumber (first + days)
      let last : Calendar.Date := ⟨counted.year + p.distance.years, counted.month + p.distance.months,
        counted.day + p.distance.days⟩
      let day := last.number
      if (Calendar.Date.ofNumber day).year < -maxYear ∨ maxYear < (Calendar.Date.ofNumber day).year
      then none
      else some (Calendar.momentOf day (hour * 3600 + minute * 60 - p.zone) + nanoseconds +
        p.distance.nanoseconds)

end Phrase

def behindZone (s : List Char) : List Char :=
  let rec behindQuote : List Char → Option (List Char)
    | [] => none
    | '\\' :: c :: rest => if c = '\\' ∨ c = '"' then behindQuote rest else none
    | c :: rest => if c = '"' then some rest else behindQuote rest
  let s := s.dropWhile Token.isBlank
  match s with
  | 'T' :: 'Z' :: '=' :: '"' :: rest => (behindQuote rest).getD s
  | _ => s

def ofText? (now : EnvTemplate.Moment) (text : List Char) : Option EnvTemplate.Moment :=
  let s := (behindZone text).dropWhile Token.isBlank
  match Token.scan (if s = [] then ['0'] else s) with
  | none => none
  | some [.sign '@', .number seconds _] | some [.sign '@', .signed seconds _ _] =>
    some (seconds * Calendar.second)
  | some [.sign '@', .decimal _ nanoseconds] => some nanoseconds
  | some tokens =>
    (Item.all tokens).bind fun items => (items.foldl Phrase.add (.start now)).moment?

end EnvTemplate.Child.Moment
