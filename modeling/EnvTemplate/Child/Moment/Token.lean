import EnvTemplate.Calendar

/-! The words, numbers and signs in which a moment is described. -/

namespace EnvTemplate.Child.Moment

inductive Unit
  | year
  | month
  | day
  | hour
  | minute
  | second
  deriving DecidableEq, Repr

inductive Token
  | number (value : Int) (digits : Nat)
  | signed (value : Int) (digits : Nat) (isNegative : Bool)
  | decimal (hasSign : Bool) (nanoseconds : Int)
  | half (isSecond : Bool)
  | month (number : Int)
  | weekday (number : Int)
  | unit (unit : Unit) (factor : Int)
  | shift (days : Int)
  | ordinal (number : Int)
  /-- A word behind a time that counts it back, or on. -/
  | direction (sign : Int)
  | zone (offset : Int)
  | summerZone (offset : Int)
  | summer
  /-- The letter between a date and a time, which is also a zone. -/
  | divider
  | here
  | sign (c : Char)
  deriving DecidableEq, Repr

namespace Token

def months : List String :=
  ["JANUARY", "FEBRUARY", "MARCH", "APRIL", "MAY", "JUNE", "JULY", "AUGUST", "SEPTEMBER", "OCTOBER",
    "NOVEMBER", "DECEMBER"]

def weekdays : List String :=
  ["SUNDAY", "MONDAY", "TUESDAY", "WEDNESDAY", "THURSDAY", "FRIDAY", "SATURDAY"]

def numbered (first : Int) (make : Int → Token) (words : List String) : List (String × Token) :=
  words.zipIdx.map fun (word, i) => (word, make (first + i))

def calendar : List (String × Token) :=
  numbered 1 month (months.take 9) ++ [("SEPT", month 9)] ++ numbered 10 month (months.drop 9) ++
    numbered 0 weekday weekdays ++
    [("TUES", weekday 2), ("WEDNES", weekday 3), ("THUR", weekday 4), ("THURS", weekday 4)]

def units : List (String × Token) :=
  [("YEAR", unit .year 1), ("MONTH", unit .month 1), ("FORTNIGHT", unit .day 14),
    ("WEEK", unit .day 7), ("DAY", unit .day 1), ("HOUR", unit .hour 1), ("MINUTE", unit .minute 1),
    ("MIN", unit .minute 1), ("SECOND", unit .second 1), ("SEC", unit .second 1)]

def relatives : List (String × Token) :=
  [("TOMORROW", shift 1), ("YESTERDAY", shift (-1)), ("TODAY", shift 0), ("NOW", shift 0),
    ("LAST", ordinal (-1)), ("THIS", ordinal 0), ("NEXT", ordinal 1), ("FIRST", ordinal 1)] ++
    numbered 3 ordinal ["THIRD", "FOURTH", "FIFTH", "SIXTH", "SEVENTH", "EIGHTH", "NINTH", "TENTH",
      "ELEVENTH", "TWELFTH"] ++
    [("AGO", direction (-1)), ("HENCE", direction 1)]

def zones : List (String × Token) :=
  let east (halves : Int) : Token := zone (halves * 1800)
  let summerEast (halves : Int) : Token := summerZone (halves * 1800)
  [("GMT", east 0), ("UT", east 0), ("UTC", east 0), ("WET", east 0), ("WEST", summerEast 0),
    ("BST", summerEast 0), ("ART", east (-6)), ("BRT", east (-6)), ("BRST", summerEast (-6)),
    ("NST", east (-7)), ("NDT", summerEast (-7)), ("AST", east (-8)), ("ADT", summerEast (-8)),
    ("CLT", east (-8)), ("CLST", summerEast (-8)), ("EST", east (-10)), ("EDT", summerEast (-10)),
    ("CST", east (-12)), ("CDT", summerEast (-12)), ("MST", east (-14)), ("MDT", summerEast (-14)),
    ("PST", east (-16)), ("PDT", summerEast (-16)), ("AKST", east (-18)), ("AKDT", summerEast (-18)),
    ("HST", east (-20)), ("HAST", east (-20)), ("HADT", summerEast (-20)), ("SST", east (-24)),
    ("WAT", east 2), ("CET", east 2), ("CEST", summerEast 2), ("MET", east 2), ("MEZ", east 2),
    ("MEST", summerEast 2), ("MESZ", summerEast 2), ("EET", east 4), ("EEST", summerEast 4),
    ("CAT", east 4), ("SAST", east 4), ("EAT", east 6), ("MSK", east 6), ("MSD", summerEast 6),
    ("IST", east 11), ("SGT", east 16), ("KST", east 18), ("JST", east 18), ("GST", east 20),
    ("NZST", east 24), ("NZDT", summerEast 24)]

def letterZones : List (String × Token) :=
  let hours (first step : Int) (letters : List Char) : List (String × Token) :=
    letters.zipIdx.map fun (c, i) => (c.toString, zone ((first + step * (i : Int)) * 3600))
  hours 1 1 "ABCDEFGHI".toList ++ hours 10 1 "KLM".toList ++ hours (-1) (-1) "NOPQRS".toList ++
    hours (-8) (-1) "UVWXY".toList ++ [("Z", zone 0), ("T", divider), ("J", here)]

def halves : List (String × Token) :=
  [("AM", half false), ("A.M.", half false), ("PM", half true), ("P.M.", half true)]

def ofCalendar? (word : List Char) : Option Token :=
  let isShort := word.length = 3 || word.length = 4 && word[3]? = some '.'
  if isShort then
    (calendar.find? fun (name, _) => name.toList.take 3 = word.take 3).map Prod.snd
  else calendar.lookup (String.ofList word)

def ofWord? (word : List Char) : Option Token :=
  let text := String.ofList word
  let single := if word.getLast? = some 'S' then String.ofList word.dropLast else text
  let bare := String.ofList (word.filter (· ≠ '.'))
  (halves.lookup text).orElse fun _ =>
    (ofCalendar? word).orElse fun _ =>
    (zones.lookup text).orElse fun _ =>
    (if text = "DST" then some summer else none).orElse fun _ =>
    (units.lookup text).orElse fun _ =>
    (units.lookup single).orElse fun _ =>
    (relatives.lookup text).orElse fun _ =>
    (letterZones.lookup text).orElse fun _ => zones.lookup bare

def maxLetters : Nat := 19

def valueOf (digits : List Char) : Int :=
  digits.foldl (fun n c => n * 10 + ((c.toNat - '0'.toNat : Nat) : Int)) 0

def maxValue : Int := 9223372036854775807

def ofDigits (sign : Option Bool) (s : List Char) : Option (Token × List Char) :=
  let digits := s.takeWhile Char.isDigit
  let behind := s.drop digits.length
  let isNegative := sign = some true
  let value := if isNegative then -valueOf digits else valueOf digits
  let whole : Token :=
    match sign with
    | none => number value digits.length
    | some isNegative => signed value digits.length isNegative
  if maxValue < valueOf digits then none
  else
    match behind with
    | mark :: d :: _ =>
      if (mark = '.' || mark = ',') && d.isDigit then
        let decimals := behind.tail.takeWhile Char.isDigit
        let kept := valueOf ((decimals ++ List.replicate 9 '0').take 9)
        let excess := isNegative && (decimals.drop 9).any (· ≠ '0')
        let part := if excess then kept + 1 else kept
        let nanoseconds := value * Calendar.second + if isNegative then -part else part
        some (decimal sign.isSome nanoseconds, behind.tail.drop decimals.length)
      else some (whole, behind)
    | _ => some (whole, behind)

def isBlank (c : Char) : Bool := c = ' ' || 9 ≤ c.toNat && c.toNat ≤ 13

def behindRemark : Nat → List Char → List Char
  | _, [] => []
  | depth, c :: rest =>
    if c = '(' then behindRemark (depth + 1) rest
    else if c = ')' then if depth ≤ 1 then rest else behindRemark (depth - 1) rest
    else behindRemark depth rest

/-- The tokens of a text, each at least one character long; none if a word or a number is not known. -/
def scanWithin : Nat → List Char → Option (List Token)
  | 0, _ | _, [] => some []
  | fuel + 1, c :: rest =>
    if isBlank c then scanWithin fuel rest
    else if c.isDigit then
      (ofDigits none (c :: rest)).bind fun (token, rest) =>
        (scanWithin fuel rest).map (token :: ·)
    else if c = '-' || c = '+' then
      let behind := rest.dropWhile isBlank
      if (behind.head?.map Char.isDigit).getD false then
        (ofDigits (some (c = '-')) behind).bind fun (token, rest) =>
          (scanWithin fuel rest).map (token :: ·)
      else scanWithin fuel behind
    else if c.isAlpha then
      let word := (c :: rest).takeWhile fun c => c.isAlpha || c = '.'
      (ofWord? ((word.take maxLetters).map Char.toUpper)).bind fun token =>
        (scanWithin fuel ((c :: rest).drop word.length)).map (token :: ·)
    else if c = '(' then scanWithin fuel (behindRemark 0 (c :: rest))
    else (scanWithin fuel rest).map (sign c :: ·)

def scan (s : List Char) : Option (List Token) := scanWithin s.length s

end Token

end EnvTemplate.Child.Moment
