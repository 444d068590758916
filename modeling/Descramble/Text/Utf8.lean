import Descramble.Text.Basic

namespace Descramble.Text

def utf8 (s : Text) : List UInt8 := s.flatMap String.utf8EncodeChar

/-- A character of which some bytes are read: how many are to come, the bits so far, and the
bounds of the next byte. -/
structure Pending where
  needed : Nat
  bits : Nat
  lower : Nat := 0x80
  upper : Nat := 0xBF

/-- What a first byte begins. The bounds rule out long forms, surrogates and values above the
last code point. -/
def Pending.ofLead? (b : Nat) : Option Pending :=
  if b < 0x80 then some ⟨0, b, 0x80, 0xBF⟩
  else if b < 0xC2 then none
  else if b < 0xE0 then some ⟨1, b - 0xC0, 0x80, 0xBF⟩
  else if b = 0xE0 then some ⟨2, 0, 0xA0, 0xBF⟩
  else if b = 0xED then some ⟨2, 0xD, 0x80, 0x9F⟩
  else if b < 0xF0 then some ⟨2, b - 0xE0, 0x80, 0xBF⟩
  else if b = 0xF0 then some ⟨3, 0, 0x90, 0xBF⟩
  else if b < 0xF4 then some ⟨3, b - 0xF0, 0x80, 0xBF⟩
  else if b = 0xF4 then some ⟨3, 4, 0x80, 0x8F⟩
  else none

def decodeLead (b : Nat) : List (Option Char) × Option Pending :=
  match Pending.ofLead? b with
  | none => ([none], none)
  | some p => if p.needed = 0 then ([some (Char.ofNat p.bits)], none) else ([], some p)

def decodeByte (pending : Option Pending) (b : Nat) : List (Option Char) × Option Pending :=
  match pending with
  | none => decodeLead b
  | some p =>
    if p.lower ≤ b ∧ b ≤ p.upper then
      let bits := p.bits * 64 + b % 64
      if p.needed ≤ 1 then ([some (Char.ofNat bits)], none)
      else ([], some ⟨p.needed - 1, bits, 0x80, 0xBF⟩)
    else
      let (units, rest) := decodeLead b
      (none :: units, rest)

/-- The characters of a byte sequence; each longest piece that begins none is a `none`. -/
def decodeFrom (pending : Option Pending) : List UInt8 → List (Option Char)
  | [] => if pending.isSome then [none] else []
  | b :: bytes =>
    let (units, rest) := decodeByte pending b.toNat
    units ++ decodeFrom rest bytes

def ofUtf8? (bytes : List UInt8) : Option Text := (decodeFrom none bytes).mapM id

/-- What is no character is read as U+FFFD. -/
def ofUtf8Lossy (bytes : List UInt8) : Text :=
  (decodeFrom none bytes).map fun c => c.getD (Char.ofNat 0xFFFD)

end Descramble.Text
