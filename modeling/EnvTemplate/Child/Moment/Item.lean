import EnvTemplate.Child.Moment.Token

/-! What tokens say together about a moment. -/

namespace EnvTemplate.Child.Moment

structure Distance where
  years : Int
  months : Int
  days : Int
  nanoseconds : Int
  deriving DecidableEq, Repr

namespace Distance

def none : Distance := ⟨0, 0, 0, 0⟩

def add (a b : Distance) : Distance :=
  ⟨a.years + b.years, a.months + b.months, a.days + b.days, a.nanoseconds + b.nanoseconds⟩

def scale (n : Int) (a : Distance) : Distance :=
  ⟨n * a.years, n * a.months, n * a.days, n * a.nanoseconds⟩

def ofUnit (n : Int) : Unit → Distance
  | .year => ⟨n, 0, 0, 0⟩
  | .month => ⟨0, n, 0, 0⟩
  | .day => ⟨0, 0, n, 0⟩
  | .hour => ⟨0, 0, 0, n * 3600 * Calendar.second⟩
  | .minute => ⟨0, 0, 0, n * 60 * Calendar.second⟩
  | .second => ⟨0, 0, 0, n * Calendar.second⟩

end Distance

structure Year where
  value : Int
  digits : Nat
  deriving DecidableEq, Repr

inductive Item
  | clock (hour minute nanoseconds : Int) (half : Option Bool)
  | date (year : Option Year) (month day : Int)
  | weekday (ordinal number : Int)
  | zone (offset : Int)
  | here
  | move (distance : Distance)
  /-- Digits that are a year, a date or a time, as the others say. -/
  | bare (value : Int) (count : Nat)
  deriving DecidableEq, Repr

namespace Item

abbrev Parse := List Token → Option (List Item × List Token)

def offsetOf (value : Int) (digits : Nat) (isNegative : Bool) (minutes : Option Int) : Option Int :=
  let total :=
    match minutes with
    | some minutes => value * 60 + if isNegative then -minutes else minutes
    | none =>
      let value := if digits ≤ 2 then value * 100 else value
      Int.tdiv value 100 * 60 + Int.tmod value 100
  if -1440 ≤ total ∧ total ≤ 1440 then some (total * 60) else none

def offset? : List Token → Option (Int × List Token)
  | .signed value digits isNegative :: .sign ':' :: rest =>
    match rest with
    | .number minutes _ :: rest =>
      (offsetOf value digits isNegative (some minutes)).map fun offset => (offset, rest)
    | _ => none
  | .signed value digits isNegative :: rest =>
    (offsetOf value digits isNegative none).map fun offset => (offset, rest)
  | _ => none

def withZone (items : List Item) : Parse := fun tokens =>
  match tokens with
  | .signed _ _ _ :: _ =>
    (offset? tokens).map fun (offset, rest) => (items ++ [zone offset], rest)
  | _ => some (items, tokens)

def closeTime (before : List Item) (mayHalve : Bool) (hour minute nanoseconds : Int) : Parse
  | .half isSecond :: rest =>
    if mayHalve then some (before ++ [clock hour minute nanoseconds (some isSecond)], rest)
    else some (before ++ [clock hour minute nanoseconds none], .half isSecond :: rest)
  | tokens => withZone (before ++ [clock hour minute nanoseconds none]) tokens

def minutesBehind (before : List Item) (mayHalve : Bool) (hour : Int) : Parse
  | .number minute _ :: .sign ':' :: rest =>
    match rest with
    | .number second _ :: rest =>
      closeTime before mayHalve hour minute (second * Calendar.second) rest
    | .decimal false nanoseconds :: rest => closeTime before mayHalve hour minute nanoseconds rest
    | _ => none
  | .number minute _ :: rest => closeTime before mayHalve hour minute 0 rest
  | _ => none

def timeBehind (date : Item) : Parse
  | .number hour _ :: .sign ':' :: rest => minutesBehind [date] false hour rest
  | .number hour _ :: .signed value digits isNegative :: rest =>
    withZone [date, clock hour 0 0 none] (.signed value digits isNegative :: rest)
  | _ => none

def moving (distance : Distance) : Parse
  | .direction sign :: rest => some ([move (distance.scale sign)], rest)
  | rest => some ([move distance], rest)

def slashed (first : Int) (digits : Nat) : Parse
  | .number second _ :: .sign '/' :: rest =>
    match rest with
    | .number third thirdDigits :: rest =>
      some ([if 4 ≤ digits then date (some ⟨first, digits⟩) second third
        else date (some ⟨third, thirdDigits⟩) first second], rest)
    | _ => none
  | .number second _ :: rest => some ([date none first second], rest)
  | _ => none

def numbered (value : Int) (digits : Nat) : Parse
  | .half isSecond :: rest => some ([clock value 0 0 (some isSecond)], rest)
  | .sign ':' :: rest => minutesBehind [] true value rest
  | .sign '/' :: rest => slashed value digits rest
  | .month month :: .signed year yearDigits _ :: rest =>
    some ([date (some ⟨-year, yearDigits⟩) month value], rest)
  | .month month :: .number year yearDigits :: rest =>
    some ([date (some ⟨year, yearDigits⟩) month value], rest)
  | .month month :: rest => some ([date none month value], rest)
  | .weekday day :: rest => some ([weekday value day], rest)
  | .unit unit factor :: rest => moving (.ofUnit (value * factor) unit) rest
  | .signed month _ _ :: .signed day _ _ :: rest =>
    let date := date (some ⟨value, digits⟩) (-month) (-day)
    match rest with
    | .divider :: rest => timeBehind date rest
    | _ => some ([date], rest)
  | .signed n _ _ :: .unit unit factor :: rest =>
    some ([bare value digits, move (.ofUnit (n * factor) unit)], rest)
  | .signed n signedDigits isNegative :: rest =>
    withZone [clock value 0 0 none] (.signed n signedDigits isNegative :: rest)
  | rest => some ([bare value digits], rest)

def zoned (offset : Int) : Parse
  | .summer :: rest => some ([zone (offset + 3600)], rest)
  | .signed n _ _ :: .unit unit factor :: rest =>
    some ([zone offset, move (.ofUnit (n * factor) unit)], rest)
  | .signed n digits isNegative :: rest =>
    (offset? (.signed n digits isNegative :: rest)).map fun (more, rest) =>
      ([zone (offset + more)], rest)
  | rest => some ([zone offset], rest)

def dividerOffset : Int := -25200

def parse : Parse
  | .number value digits :: rest => numbered value digits rest
  | .signed n _ _ :: .unit unit factor :: rest => moving (.ofUnit (n * factor) unit) rest
  | .decimal _ nanoseconds :: .unit .second _ :: rest => moving ⟨0, 0, 0, nanoseconds⟩ rest
  | .month month :: .signed day _ _ :: .signed year digits _ :: rest =>
    some ([date (some ⟨-year, digits⟩) month (-day)], rest)
  | .month month :: .number day _ :: .sign ',' :: rest =>
    match rest with
    | .number year digits :: rest => some ([date (some ⟨year, digits⟩) month day], rest)
    | _ => none
  | .month month :: .number day _ :: rest => some ([date none month day], rest)
  | .weekday day :: .sign ',' :: rest => some ([weekday 0 day], rest)
  | .weekday day :: rest => some ([weekday 0 day], rest)
  | .ordinal n :: .weekday day :: rest => some ([weekday n day], rest)
  | .ordinal n :: .unit unit factor :: rest => moving (.ofUnit (n * factor) unit) rest
  | .unit unit factor :: rest => moving (.ofUnit factor unit) rest
  | .shift days :: rest => some ([move ⟨0, 0, days, 0⟩], rest)
  | .zone offset :: rest => zoned offset rest
  | .summerZone offset :: rest => some ([zone (offset + 3600)], rest)
  | .divider :: .signed n _ _ :: rest =>
    match rest with
    | .unit unit factor :: rest =>
      some ([zone dividerOffset, move (.ofUnit (n * factor) unit)], rest)
    | _ => none
  | .divider :: rest => some ([zone dividerOffset], rest)
  | .here :: rest => some ([here], rest)
  | _ => none

def allWithin : Nat → List Token → Option (List Item)
  | _, [] => some []
  | 0, _ => none
  | fuel + 1, tokens =>
    (parse tokens).bind fun (items, rest) => (allWithin fuel rest).map (items ++ ·)

def all (tokens : List Token) : Option (List Item) := allWithin tokens.length tokens

end Item

end EnvTemplate.Child.Moment
