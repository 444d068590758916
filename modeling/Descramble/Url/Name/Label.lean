import Descramble.Text.Basic
import Descramble.Url.Name.Direction
import Descramble.Url.Name.Folding
import Descramble.Url.Name.Joining

namespace Descramble.Url.Punycode

/-- Letters are the digits below 26, and `0` is 26. -/
def digit? (c : Char) : Option Nat :=
  if 'a' ≤ c ∧ c ≤ 'z' then some (c.toNat - 97)
  else if c.isDigit then some (c.toNat - 22)
  else none

def digit (d : Nat) : Char := Char.ofNat (if d < 26 then d + 97 else d + 22)

/-- A digit below this one ends a number. -/
def threshold (bias place : Nat) : Nat :=
  if place ≤ bias then 1 else if bias + 26 ≤ place then 26 else place - bias

theorem threshold_bounds (bias place : Nat) :
    1 ≤ threshold bias place ∧ threshold bias place ≤ 26 := by
  unfold threshold
  split
  · omega
  · split <;> omega

def limit : Nat := 0x100000000

/-- The number that is written first, least digit first, added to `sum`, and the text behind it. -/
def increase? (bias place weight sum : Nat) : Text → Option (Nat × Text)
  | [] => none
  | c :: s =>
    match digit? c with
    | none => none
    | some d =>
      let total := sum + d * weight
      let next := weight * (36 - threshold bias place)
      if limit ≤ total then none
      else if d < threshold bias place then some (total, s)
      else if limit ≤ next then none
      else increase? bias (place + 36) next total s

theorem increase?_lt (h : increase? bias place weight sum s = some (n, r)) :
    r.length < s.length := by
  induction s generalizing place weight sum with
  | nil => simp [increase?] at h
  | cons c s ih =>
    simp only [increase?] at h
    split at h
    · cases h
    · split at h
      · cases h
      · split at h
        · simp only [Option.some.injEq, Prod.mk.injEq] at h
          simp [← h.2]
        · split at h
          · cases h
          · have := ih h
            simp only [List.length_cons]
            omega

/-- The bias after a step of `delta`, which grows with the steps that have been taken. -/
def settle (place delta : Nat) : Nat :=
  if 455 < delta then settle (place + 36) (delta / 35) else place + 36 * delta / (delta + 38)
termination_by delta
decreasing_by exact Nat.div_lt_self (by omega) (by omega)

def adapt (delta count : Nat) (first : Bool) : Nat :=
  let halved := if first then delta / 700 else delta / 2
  settle 0 (halved + halved / count)

/-- Puts characters into `name`, one for each number in the text. A number says how many places to
go on from the last one, and each round through the name adds one to the code point. -/
def grow? (bias code start : Nat) (name s : Text) : Option Text :=
  if s.isEmpty then some name
  else
    match _step : increase? bias 36 1 start s with
    | none => none
    | some (total, r) =>
      let count := name.length + 1
      let code := code + total / count
      if Nat.isValidChar code then
        let position := total % count
        let name := name.take position ++ Char.ofNat code :: name.drop position
        grow? (adapt (total - start) count (start == 0)) code (position + 1) name r
      else none
termination_by s.length
decreasing_by exact increase?_lt _step

/-- The text that is written behind `xn--`: its ASCII characters stand before the last hyphen. -/
def decode? (s : Text) : Option Text :=
  match Text.splitLast? '-' s with
  | some ([], _) => none
  | some (basic, r) => grow? 72 128 0 basic r
  | none => grow? 72 128 0 [] s

def numeral (bias place n : Nat) : Text :=
  let t := threshold bias place
  if n < t then [digit n]
  else digit (t + (n - t) % (36 - t)) :: numeral bias (place + 36) ((n - t) / (36 - t))
termination_by n
decreasing_by
  have := threshold_bounds bias place
  have := Nat.div_le_self (n - threshold bias place) (36 - threshold bias place)
  omega

/-- What has been written, the places passed since, and the characters that the name has so far. -/
structure Writing where
  digits : Text
  passed : Nat
  bias : Nat
  count : Nat

def Writing.meet (basic code : Nat) (w : Writing) (c : Char) : Writing :=
  if c.toNat < code then { w with passed := w.passed + 1 }
  else if c.toNat = code then
    { digits := w.digits ++ numeral w.bias 36 w.passed, passed := 0,
      bias := adapt w.passed (w.count + 1) (w.count == basic), count := w.count + 1 }
  else w

/-- A round through the text for each of its code points; those between are skipped, and a round
that is skipped passes each character of the name. -/
def rounds (s : Text) (basic code : Nat) (w : Writing) : List Nat → Text
  | [] => w.digits
  | next :: codes =>
    let skipped := (next - code) * (w.count + 1)
    let w := s.foldl (Writing.meet basic next) { w with passed := w.passed + skipped }
    rounds s basic (next + 1) { w with passed := w.passed + 1 } codes

def insertCode (code : Nat) : List Nat → List Nat
  | [] => [code]
  | next :: codes =>
    if code < next then code :: next :: codes
    else if code = next then next :: codes
    else next :: insertCode code codes

/-- The ASCII characters of a text, and the numbers that put the others between them. -/
def encode (s : Text) : Text :=
  let (basic, others) := s.partition (·.toNat < 128)
  let codes := others.foldr (insertCode ·.toNat) []
  let start : Writing := ⟨[], 0, 72, basic.length⟩
  (if basic.isEmpty then [] else basic ++ ['-']) ++ rounds s basic.length 128 start codes

end Descramble.Url.Punycode

namespace Descramble.Url.Name

def isShown (s : Text) : Bool :=
  s.all (fun c => isMember c || isJoiner c) && !s.head?.any isMark && isComposed s &&
    hasEffectiveJoiners [] s

/-- Longer labels are not decoded, and longer texts not shown. -/
def longestCode : Nat := 2000
def longestText : Nat := 1000

/-- The text that a label is shown as. The mark of Punycode is only for texts beyond ASCII. -/
def shown? (label : Text) : Option Text :=
  match "xn--".toList.isPrefixOf? label with
  | none => some label
  | some code => do
    let s ← if code.length ≤ longestCode then Punycode.decode? code else none
    if s.any (127 < ·.toNat) && s.length ≤ longestText && isShown s then some s else none

def code? (label : Text) : Option Text :=
  if label.all (·.toNat < 128) then some label
  else if "xn--".toList.isPrefixOf label || longestText < label.length then none
  else some ("xn--".toList ++ Punycode.encode label)

def ascii? (s : Text) : Option Text :=
  if s.all (·.toNat < 128) then some s
  else ((Text.pieces (· == '.') (fold s)).mapM code?).map (Text.join ['.'])

/-- Whether labels in lower case make a host name. -/
def isName (labels : List Text) : Bool := (labels.mapM shown?).any haveDirections

end Descramble.Url.Name
