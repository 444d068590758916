import Descramble.Text.Character

namespace Descramble

structure Duration where
  seconds : Nat
  nanoseconds : Nat := 0
  deriving DecidableEq

namespace Duration

def isZero (d : Duration) : Bool := d.seconds == 0 && d.nanoseconds == 0

/-- What one unit adds, and in what its decimal places are counted, if it may have them. -/
structure Measure where
  names : List Text
  whole : Duration
  place : Option Duration

def measures : List Measure :=
  [⟨["nanos".toList, "nsec".toList, "ns".toList], ⟨0, 1⟩, none⟩,
   ⟨["usec".toList, "us".toList, "µs".toList], ⟨0, 1000⟩, some ⟨0, 1000⟩⟩,
   ⟨["millis".toList, "msec".toList, "ms".toList], ⟨0, 1000000⟩, some ⟨0, 1000000⟩⟩,
   ⟨["seconds".toList, "second".toList, "secs".toList, "sec".toList, "s".toList], ⟨1, 0⟩,
    some ⟨0, 1000000000⟩⟩,
   ⟨["minutes".toList, "minute".toList, "min".toList, "mins".toList, "m".toList], ⟨60, 0⟩,
    some ⟨0, 60000000000⟩⟩,
   ⟨["hours".toList, "hour".toList, "hr".toList, "hrs".toList, "h".toList], ⟨3600, 0⟩,
    some ⟨3600, 0⟩⟩,
   ⟨["days".toList, "day".toList, "d".toList], ⟨86400, 0⟩, some ⟨86400, 0⟩⟩,
   ⟨["weeks".toList, "week".toList, "wk".toList, "wks".toList, "w".toList], ⟨604800, 0⟩,
    some ⟨604800, 0⟩⟩,
   ⟨["months".toList, "month".toList, "M".toList], ⟨2630016, 0⟩, some ⟨2630016, 0⟩⟩,
   ⟨["years".toList, "year".toList, "yr".toList, "yrs".toList, "y".toList], ⟨31557600, 0⟩,
    some ⟨31557600, 0⟩⟩]

def isUnitChar (c : Char) : Bool := c.isAlpha || c == 'µ'

def numeral (value count : Nat) : Text → Nat × Nat × Text
  | [] => (value, count, [])
  | c :: s =>
    if c.isDigit then numeral (10 * value + Text.digitValue c) (count + 1) s
    else if Text.isBlank c then numeral value count s
    else (value, count, c :: s)

def fits (n : Nat) : Bool := n < UInt64.size

def add? (d : Duration) (seconds nanoseconds : Nat) : Option Duration :=
  let nanos := d.nanoseconds + nanoseconds
  let total := d.seconds + seconds + nanos / 1000000000
  if fits seconds && fits nanoseconds && fits nanos && fits total then
    some ⟨total, nanos % 1000000000⟩
  else none

/-- A number with decimal places: `value + fraction / 10^places`. -/
structure Amount where
  value : Nat
  fraction : Nat := 0
  places : Nat := 0

def amount? (s : Text) : Option (Amount × Text) :=
  match numeral 0 0 s with
  | (value, count, r) =>
    if count = 0 ∨ !fits value then none
    else
      match r with
      | '.' :: r =>
        match numeral 0 0 r with
        | (fraction, places, r) =>
          if places = 0 ∨ !fits (Nat.pow 10 places) then none
          else some (⟨value, fraction, places⟩, r)
      | r => some (⟨value, 0, 0⟩, r)

def scaled? (n : Nat) (unit : Duration) (parts : Nat) : Option (Nat × Nat) :=
  let seconds := n * unit.seconds
  let nanos := n * unit.nanoseconds
  if fits seconds && fits nanos && seconds % parts == 0 && nanos % parts == 0 then
    some (seconds / parts, nanos / parts)
  else none

def addPlaces? (d : Duration) (amount : Amount) (measure : Measure) : Option Duration :=
  if amount.places = 0 then some d
  else do
    let place ← measure.place
    let (seconds, nanos) ← scaled? amount.fraction place (Nat.pow 10 amount.places)
    d.add? seconds nanos

def span? (d : Duration) (s : Text) : Option (Duration × Text) := do
  let (amount, r) ← amount? s
  let unit := r.takeWhile isUnitChar
  let measure ← measures.find? fun m => m.names.contains unit
  let (seconds, nanos) ← scaled? amount.value measure.whole 1
  let d ← (← d.add? seconds nanos).addPlaces? amount measure
  return (d, r.dropWhile isUnitChar)

/-- Spans up to the end of the text; each takes at least one character. -/
def spans? (fuel : Nat) (d : Duration) (s : Text) : Option Duration :=
  match fuel, Text.skipBlank s with
  | _, [] => some d
  | 0, _ => none
  | fuel + 1, c :: r =>
    if c.isDigit then
      match span? d (c :: r) with
      | some (d, rest) => spans? fuel d rest
      | none => none
    else none

/-- One span after another, such as `1h 30m`. Only zero needs no unit. -/
def ofText? (s : Text) : Option Duration :=
  if s = ['0'] then some ⟨0, 0⟩
  else if (Text.skipBlank s).isEmpty then none
  else spans? s.length ⟨0, 0⟩ s

end Duration
end Descramble
