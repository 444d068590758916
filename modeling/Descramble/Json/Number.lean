import Descramble.Decimal.Shortest
import Descramble.Json.Reader
import Descramble.Text.Character

namespace Descramble.Json

/-- Whole numbers of 64 bits keep their value; all others are floats. -/
inductive Number
  | natural (n : Nat)
  | negative (n : Nat)
  | real (x : Float)

def floatStyle : Decimal.Style := ⟨-5, 15⟩

def signWeight : Nat := 0x8000000000000000

def floatText (x : Float) : Text :=
  let bits := x.toBits.toNat
  let magnitude := bits % signWeight
  (if bits < signWeight then [] else ['-']) ++
    if magnitude = 0 then ['0', '.', '0']
    else (Decimal.Binary.ofBits magnitude).shortest.text floatStyle

/-- Whole digits go into a significand while they fit into 64 bits. -/
def absorb (significand : Nat) (s : Text) : Nat × Text :=
  match s with
  | [] => (significand, [])
  | c :: r =>
    if c.isDigit ∧ 10 * significand + Text.digitValue c < UInt64.size then
      absorb (10 * significand + Text.digitValue c) r
    else (significand, c :: r)

def powerOfTen (n : Nat) : Float := Float.ofScientific 1 false n

/-- Divides by the largest power until the exponent is within its reach. -/
def lower (fuel : Nat) (f : Float) (exponent : Int) : Float × Int :=
  match fuel with
  | 0 => (f, exponent)
  | fuel + 1 =>
    if exponent < -308 && f != 0 then lower fuel (f / powerOfTen 308) (exponent + 308)
    else (f, exponent)

/-- One multiplication or division scales the significand, so the last place may differ from
correct rounding. -/
def scale? (significand : Nat) (exponent : Int) : Option Float :=
  let f := (UInt64.ofNat significand).toFloat
  let (f, exponent) := lower 4 f exponent
  if exponent < 0 then
    some (if exponent < -308 then f else f / powerOfTen exponent.natAbs)
  else if exponent ≤ 308 then
    let g := f * powerOfTen exponent.natAbs
    if g.isInf then none else some g
  else if f == 0 then some f
  else none

def signed (negative : Bool) (f : Float) : Number := .real (if negative then -f else f)

def scaled (negative : Bool) (significand : Nat) (exponent : Int) (r : Text) : Read Number :=
  match scale? significand exponent with
  | some f => .ok (signed negative f, r)
  | none => .error (.here .numberOutOfRange r)

def digitRun (s : Text) : Text × Text := (s.takeWhile Char.isDigit, s.dropWhile Char.isDigit)

def exponentValue (digits : Text) : Nat := digits.foldl (fun n c => 10 * n + Text.digitValue c) 0

def exponentSplit (value : Nat) (s : Text) : Option Text :=
  match s with
  | [] => none
  | c :: r =>
    if c.isDigit then
      if 10 * value + Text.digitValue c < 0x80000000 then
        exponentSplit (10 * value + Text.digitValue c) r
      else some r
    else none

def exponentPart (negative : Bool) (significand : Nat) (base : Int) (s : Text) : Read Number :=
  let (down, s) := match s with
    | '+' :: r => (false, r)
    | '-' :: r => (true, r)
    | r => (false, r)
  match s with
  | [] => .error (.here .unfinishedValue [])
  | c :: r =>
    if c.isDigit then
      match exponentSplit 0 (c :: r) with
      | some r =>
        if significand ≠ 0 ∧ !down then .error (.here .numberOutOfRange r)
        else .ok (signed negative 0, r.dropWhile Char.isDigit)
      | none =>
        let (digits, r) := digitRun (c :: r)
        let value : Int := exponentValue digits
        scaled negative significand (if down then base - value else base + value) r
    else .error (.past .invalidNumber (c :: r))

def isExponentMark (c : Char) : Bool := c == 'e' || c == 'E'

def tailPart (negative : Bool) (significand : Nat) (base : Int) (s : Text) : Read Number :=
  match s with
  | [] => scaled negative significand base []
  | c :: r =>
    if isExponentMark c then exponentPart negative significand base r
    else scaled negative significand base (c :: r)

/-- Decimal places, read behind the point. Those that do not fit are dropped. -/
def fractionPart (negative : Bool) (significand : Nat) (base : Int) (s : Text) : Read Number :=
  match s with
  | [] => .error (.past .unfinishedValue [])
  | c :: r =>
    if c.isDigit then
      let (significand, rest) := absorb significand (c :: r)
      let places : Int := (c :: r).length - rest.length
      tailPart negative significand (base - places) (rest.dropWhile Char.isDigit)
    else .error (.past .invalidNumber (c :: r))

def wholeNumber (negative : Bool) (significand : Nat) : Number :=
  if !negative then .natural significand
  else if significand = 0 ∨ signWeight < significand then
    signed true (UInt64.ofNat significand).toFloat
  else .negative significand

def number (negative : Bool) (s : Text) : Read Number :=
  match s with
  | [] => .error (.here .unfinishedValue [])
  | c :: r =>
    if !c.isDigit then .error (.past .invalidNumber (c :: r))
    else if c = '0' ∧ (r.head?.any Char.isDigit) then .error (.past .invalidNumber r)
    else
      let (significand, rest) := if c = '0' then (0, r) else absorb 0 (c :: r)
      let (excess, rest) := digitRun rest
      match rest with
      | '.' :: t => fractionPart negative significand excess.length t
      | d :: t =>
        if isExponentMark d then exponentPart negative significand excess.length t
        else if excess.isEmpty then .ok (wholeNumber negative significand, d :: t)
        else scaled negative significand excess.length (d :: t)
      | [] =>
        if excess.isEmpty then .ok (wholeNumber negative significand, [])
        else scaled negative significand excess.length []

def skipExponent (s : Text) : Except Halt Text :=
  let s := match s with
    | '+' :: r => r
    | '-' :: r => r
    | r => r
  match s with
  | [] => .error (.here .invalidNumber [])
  | c :: r =>
    if c.isDigit then .ok (r.dropWhile Char.isDigit) else .error (.past .invalidNumber (c :: r))

def skipNumberTail (s : Text) : Except Halt Text :=
  match s with
  | [] => .ok []
  | c :: r => if isExponentMark c then skipExponent r else .ok (c :: r)

def skipNumber (s : Text) : Except Halt Text :=
  match s with
  | [] => .error (.here .invalidNumber [])
  | c :: r =>
    if !c.isDigit then .error (.past .invalidNumber (c :: r))
    else if c = '0' ∧ (r.head?.any Char.isDigit) then .error (.past .invalidNumber r)
    else
      match if c = '0' then r else r.dropWhile Char.isDigit with
      | '.' :: t =>
        if t.head?.any Char.isDigit then skipNumberTail (t.dropWhile Char.isDigit)
        else .error (.past .invalidNumber t)
      | t => skipNumberTail t

def Number.found : Number → Found
  | natural n => .natural n
  | negative n => .negative n
  | real x => .real (floatText x)

end Descramble.Json
