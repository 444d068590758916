import Descramble.Text.Basic

namespace Descramble.Decimal

/-- A positive number `digits · 10^(exponent + 1 - count)`: the exponent is that of the first
digit. -/
structure Numeral where
  digits : List Nat
  exponent : Int

/-- A positive float is `significand · 2^exponent`; the neighbours below are nearer than those
above where the significand is the least of its binade. -/
structure Binary where
  significand : Nat
  exponent : Int
  leastOfBinade : Bool

def hiddenBit : Nat := 0x10000000000000

def Binary.ofBits (bits : Nat) : Binary :=
  let fraction := bits % hiddenBit
  let biased := bits / hiddenBit % 2048
  if biased = 0 then ⟨fraction, -1074, false⟩
  else ⟨fraction + hiddenBit, (biased : Int) - 1075, fraction == 0 && 1 < biased⟩

namespace Binary

/-- Numbers compare with `x · 10^place` after multiplication by these two powers. -/
def scales (place exponent : Int) : Nat × Nat :=
  (Nat.pow 2 (exponent - 2).toNat * Nat.pow 10 (-place).toNat,
    Nat.pow 2 (2 - exponent).toNat * Nat.pow 10 place.toNat)

/-- Whether `x · 10^place` reads back as this number: it lies between the midpoints to the two
neighbours, ends included where the significand is even. -/
def holds (b : Binary) (place : Int) (x : Nat) : Bool :=
  let (self, grid) := scales place b.exponent
  let low := (4 * b.significand - if b.leastOfBinade then 1 else 2) * self
  let high := (4 * b.significand + 2) * self
  let point := x * grid
  if b.significand % 2 = 0 then low ≤ point && point ≤ high else low < point && point < high

def nearest? (b : Binary) (place : Int) : Option Nat :=
  let (self, grid) := scales place b.exponent
  let value := 4 * b.significand * self
  let below := value / grid
  match b.holds place below, b.holds place (below + 1) with
  | true, true =>
    let down := value - below * grid
    let up := (below + 1) * grid - value
    some (if down < up ∨ (down = up ∧ below % 2 = 0) then below else below + 1)
  | true, false => some below
  | false, true => some (below + 1)
  | false, false => none

/-- The decimal exponent of the first digit; no float lies below `10^-400`. -/
def leadingPlace (b : Binary) : Int :=
  let (self, grid) := scales (-400) b.exponent
  ((Text.decimal (4 * b.significand * self / grid)).length : Int) - 401

def trimZeros (digits : List Nat) : List Nat := (digits.reverse.dropWhile (· == 0)).reverse

/-- The fewest digits that read back as this number, and of those the nearest. -/
def shortest (b : Binary) : Numeral :=
  let lead := b.leadingPlace
  let found := (List.range 17).findSome? fun (k : Nat) =>
    (b.nearest? (lead - k)).map fun x => (k, x)
  let (k, x) := found.getD (0, 0)
  let digits := (Text.decimal x).map fun c => c.toNat - 48
  ⟨trimZeros digits, lead - k + digits.length - 1⟩

end Binary

structure Style where
  lowest : Int
  highest : Int

def digitText (digits : List Nat) : Text := digits.map Nat.digitChar

def Numeral.positional (n : Numeral) : Text :=
  if n.exponent < 0 then
    ['0', '.'] ++ List.replicate (-n.exponent - 1).toNat '0' ++ digitText n.digits
  else
    let whole := n.exponent.toNat + 1
    let fraction := n.digits.drop whole
    digitText (n.digits.take whole) ++ List.replicate (whole - n.digits.length) '0' ++ ['.'] ++
      (if fraction.isEmpty then ['0'] else digitText fraction)

def Numeral.scientific (n : Numeral) : Text :=
  digitText (n.digits.take 1) ++
    (if n.digits.length ≤ 1 then [] else '.' :: digitText n.digits.tail) ++
    ['e', if n.exponent < 0 then '-' else '+'] ++ Text.decimal n.exponent.natAbs

def Numeral.text (style : Style) (n : Numeral) : Text :=
  if style.lowest ≤ n.exponent ∧ n.exponent ≤ style.highest then n.positional else n.scientific

end Descramble.Decimal
