import Descramble.Text.Basic

namespace Descramble

/-- The three ways in which a helper scrambles. -/
inductive Kind
  | reverse
  | slice
  | swap
  deriving DecidableEq

namespace Kind

def all : List Kind := [reverse, slice, swap]

def name : Kind → Text
  | reverse => "reverse".toList
  | slice => "slice".toList
  | swap => "swap".toList

def takesOperand : Kind → Bool
  | reverse => false
  | slice | swap => true

theorem mem_all (kind : Kind) : kind ∈ all := by
  cases kind <;> simp [all]

theorem nodup_all : all.Nodup := by simp [all]

end Kind

inductive Operation
  | reverse
  | slice (count : UInt64)
  | swap (index : UInt64)
  deriving DecidableEq

namespace Operation

/-- A reversal has no use for the operand. -/
def ofKind : Kind → UInt64 → Operation
  | .reverse, _ => reverse
  | .slice, n => slice n
  | .swap, n => swap n

def kind : Operation → Kind
  | reverse => .reverse
  | slice _ => .slice
  | swap _ => .swap

/-- Zero where there is none. -/
def operand : Operation → UInt64
  | reverse => 0
  | slice n | swap n => n

def text : Operation → Text
  | reverse => "reverse".toList
  | slice n => "slice(".toList ++ Text.decimal n.toNat ++ [')']
  | swap n => "swap(".toList ++ Text.decimal n.toNat ++ [')']

@[simp] theorem kind_ofKind (k : Kind) (n : UInt64) : (ofKind k n).kind = k := by
  cases k <;> rfl

theorem ofKind_kind_operand (op : Operation) : ofKind op.kind op.operand = op := by
  cases op <;> rfl

end Operation

abbrev Program := List Operation

namespace Program

def text (p : Program) : Text := Text.join [' '] (p.map Operation.text)

/-- An empty program is named instead of leaving a gap. -/
def label (p : Program) : Text := if p.isEmpty then "(empty)".toList else text p

end Program
end Descramble
