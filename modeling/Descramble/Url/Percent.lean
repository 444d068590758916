import Descramble.Text.Utf8

namespace Descramble.Url

def hexDigit (n : Nat) : Char := Char.ofNat (if n < 10 then 48 + n else 55 + n)

def hexDigitValue? (b : UInt8) : Option Nat :=
  let n := b.toNat
  if 48 ≤ n ∧ n ≤ 57 then some (n - 48)
  else if 65 ≤ n ∧ n ≤ 70 then some (n - 55)
  else if 97 ≤ n ∧ n ≤ 102 then some (n - 87)
  else none

def percentByte (b : UInt8) : Text := ['%', hexDigit (b.toNat / 16), hexDigit (b.toNat % 16)]

def percentChar (c : Char) : Text := (String.utf8EncodeChar c).flatMap percentByte

def percentEncode (escapes : Char → Bool) (s : Text) : Text :=
  s.flatMap fun c => if escapes c then percentChar c else [c]

/-- A percent sign without two hexadecimal digits behind it stands for itself. -/
def percentDecode : List UInt8 → List UInt8
  | [] => []
  | b :: bytes =>
    if b = 37 then
      match bytes with
      | h :: l :: rest =>
        match hexDigitValue? h, hexDigitValue? l with
        | some h, some l => UInt8.ofNat (16 * h + l) :: percentDecode rest
        | _, _ => b :: percentDecode (h :: l :: rest)
      | rest => b :: rest
    else b :: percentDecode bytes

def isUnprintable (c : Char) : Bool := c.toNat < 32 || 126 < c.toNat

def escapedInFragment (c : Char) : Bool :=
  isUnprintable c || [' ', '"', '<', '>', Char.ofNat 96].contains c

def escapedInPath (c : Char) : Bool :=
  escapedInFragment c || ['#', '?', '{', '}'].contains c

def escapedInCredentials (c : Char) : Bool :=
  escapedInPath c || ['/', ':', ';', '=', '@', '[', '\\', ']', '^', '|'].contains c

/-- The quote is escaped in queries of the schemes that browsers know. -/
def escapedInQuery (special : Bool) (c : Char) : Bool :=
  isUnprintable c || [' ', '"', '#', '<', '>'].contains c || (special && c == '\'')

theorem percentEncode_of_plain (h : ∀ c ∈ s, escapes c = false) : percentEncode escapes s = s := by
  induction s with
  | nil => rfl
  | cons c s ih =>
    have hc := h c (by simp)
    have hs := ih fun d hd => h d (by simp [hd])
    simp only [percentEncode] at hs ⊢
    simp [hc, hs]

end Descramble.Url
