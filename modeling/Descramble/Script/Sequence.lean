import Descramble.Fault
import Descramble.Script.Classify
import Descramble.Text.Character

namespace Descramble.Script

inductive Policy
  | ignore
  | failFast
  deriving DecidableEq

namespace Policy

def name : Policy → Text
  | ignore => "ignore".toList
  | failFast => "fail-fast".toList

def ofName? (s : Text) : Option Policy := [ignore, failFast].find? fun p => p.name == s

end Policy

/-- An operand as it is written, with the text behind the parenthesis it is listed in. -/
structure Operand where
  digits : Text
  arguments : Text
  deriving DecidableEq

/-- Two arguments, of which the second is a number. -/
def operandAt? (s : Text) : Option Operand := do
  let arguments ← Text.char? '(' s
  let (_, s) ← Text.word? (Text.skipBlank arguments)
  let s ← Text.symbol? ',' s
  let s := Text.skipBlank s
  let digits := s.takeWhile Text.isDecimalDigit
  let _ ← if digits.isEmpty then none else Text.symbol? ')' (s.dropWhile Text.isDecimalDigit)
  return ⟨digits, arguments⟩

def operand? (statement : Text) : Option Operand := Text.leftmost operandAt? statement

/-- Only ASCII digits have a value, and it must stay below 2^64. -/
def readDigits (value : Nat) : Text → Except NumeralFault Nat
  | [] => .ok value
  | c :: s =>
    if c.isDigit then
      if 10 * value + Text.digitValue c < UInt64.size then
        readDigits (10 * value + Text.digitValue c) s
      else .error .tooLarge
    else .error .invalidDigit

def readOperand (kind : Kind) (statement : Text) : Except Fault UInt64 :=
  match operand? statement with
  | none => .error (.missingOperand kind statement)
  | some operand =>
    match readDigits 0 operand.digits with
    | .ok n => .ok (.ofNat n)
    | .error cause => .error (.badNumeral cause)

/-- The operation a statement stands for, if its helper is bound. -/
def operation? (policy : Policy) (b : Bindings) (s : Text) : Except Fault (Option Operation) :=
  match (calledHelper? s).bind b.kindOf? with
  | none =>
    match policy with
    | .ignore => .ok none
    | .failFast => .error (.unknownOperation ((calledHelper? s).getD s))
  | some kind =>
    if kind.takesOperand then
      match policy, readOperand kind s with
      | _, .ok n => .ok (some (.ofKind kind n))
      | .ignore, .error _ => .ok (some (.ofKind kind 0))
      | .failFast, .error fault => .error fault
    else .ok (some (.ofKind kind 0))

def sequence (policy : Policy) (b : Bindings) : List Text → Except Fault Program
  | [] => .ok []
  | s :: ss => do
    let op ← operation? policy b s
    let rest ← sequence policy b ss
    return op.toList ++ rest

/-- Statements are sequenced one by one, whatever stands around them. -/
theorem sequence_append (policy : Policy) (b : Bindings) (xs ys : List Text) :
    sequence policy b (xs ++ ys) = do
      let p ← sequence policy b xs
      let q ← sequence policy b ys
      return p ++ q := by
  induction xs with
  | nil =>
    cases h : sequence policy b ys <;> simp [sequence, h, bind, Except.bind, pure, Except.pure]
  | cons s xs ih =>
    simp only [List.cons_append, sequence, ih]
    cases operation? policy b s <;> cases sequence policy b xs <;>
      cases sequence policy b ys <;> simp [bind, Except.bind, pure, Except.pure]

end Descramble.Script
