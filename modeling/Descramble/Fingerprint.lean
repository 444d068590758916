import Descramble.Text.Utf8

namespace Descramble.Fingerprint

structure State where
  a : UInt64
  b : UInt64
  c : UInt64
  d : UInt64

def rotate (x : UInt64) (n : UInt64) : UInt64 := (x <<< n) ||| (x >>> (64 - n))

def State.round (s : State) : State :=
  let a := s.a + s.b
  let b := rotate s.b 13 ^^^ a
  let a := rotate a 32
  let c := s.c + s.d
  let d := rotate s.d 16 ^^^ c
  let a := a + d
  let d := rotate d 21 ^^^ a
  let c := c + b
  let b := rotate b 17 ^^^ c
  ⟨a, b, rotate c 32, d⟩

/-- One round for each word of input. -/
def State.absorb (s : State) (word : UInt64) : State :=
  let s := State.round { s with d := s.d ^^^ word }
  { s with a := s.a ^^^ word }

def State.finish (s : State) : UInt64 :=
  let s := (State.round { s with c := s.c ^^^ 0xff }).round.round
  s.a ^^^ s.b ^^^ s.c ^^^ s.d

def State.start : State :=
  ⟨0x736f6d6570736575, 0x646f72616e646f6d, 0x6c7967656e657261, 0x7465646279746573⟩

def littleEndian (bytes : List UInt8) : UInt64 :=
  bytes.foldr (fun byte word => word <<< 8 ||| byte.toUInt64) 0

/-- Absorbs whole words; the last one holds what is left and, on top, the length. -/
def absorbAll (s : State) (length : Nat) (bytes : List UInt8) : State :=
  match bytes with
  | b0 :: b1 :: b2 :: b3 :: b4 :: b5 :: b6 :: b7 :: rest =>
    absorbAll (s.absorb (littleEndian [b0, b1, b2, b3, b4, b5, b6, b7])) length rest
  | rest => s.absorb (littleEndian rest ||| (UInt64.ofNat length <<< 56))

/-- SipHash with one round for each word and three at the end. -/
def hash (bytes : List UInt8) : UInt64 := (absorbAll .start bytes.length bytes).finish

def hexWord (n : Nat) : Text :=
  let digits := Nat.toDigits 16 n
  List.replicate (16 - digits.length) '0' ++ digits

/-- Sixteen digits that stand for a script. A byte that no text contains ends the input. -/
def ofScript (script : Text) : Text := hexWord (hash (Text.utf8 script ++ [0xff])).toNat

end Descramble.Fingerprint
