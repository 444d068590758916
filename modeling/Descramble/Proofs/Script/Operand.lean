import Descramble.Proofs.Script.Argument
import Descramble.Proofs.Script.Member

namespace Descramble.Script

open Text (Gap Name)

/-- The call of a helper of an object with a name and a number, with blanks around these two. -/
structure NumberedCall where
  object : Name
  helper : Name
  list : OperandForm

namespace NumberedCall

variable {b : Bindings} {kind : Kind}

def text (c : NumberedCall) : Text :=
  c.object.text ++ '.' :: (c.helper.text ++ '(' :: c.list.inside)

theorem calledHelper?_text (c : NumberedCall) : calledHelper? c.text = some c.helper.text := by
  have here : callAt? c.text = some ⟨c.helper.text, c.list.inside⟩ :=
    callAt?_eq_some_iff.mpr ⟨c.object, c.helper, rfl, rfl⟩
  rw [calledHelper?, call?, Text.leftmost_of_find here]
  rfl

theorem operand?_text (c : NumberedCall) :
    operand? c.text = some ⟨c.list.digits, c.list.inside⟩ := by
  have outside : '(' ∉ c.object.text ++ '.' :: c.helper.text := by
    simp [c.object.not_mem (c := '(') rfl, c.helper.not_mem (c := '(') rfl]
  have front : Text.Barren operandAt? (c.object.text ++ '.' :: c.helper.text) := by
    apply Text.Barren.of_first
    intro d hd s
    have other : d ≠ '(' := fun same => outside (same ▸ hd)
    simp [operandAt?, Text.char?, other]
  have here := c.list.operandAt?_inside []
  have whole : c.text = (c.object.text ++ '.' :: c.helper.text) ++ '(' :: c.list.inside := by
    simp [text]
  rw [List.append_nil] at here
  rw [operand?, whole, Text.leftmost_barren front, Text.leftmost_of_find here]

/-- An operand is kept as it is written, with any number of leading zeros, as long as it is written
in ASCII digits and is below 2^64. Any other is refused under the strict policy and replaced by
zero under the permissive one; none is cut off or wrapped around. -/
theorem sequence_limit (c : NumberedCall) (bound : b.kindOf? c.helper.text = some kind)
    (scrambles : kind = .slice ∨ kind = .swap) :
    (∀ n : UInt64, (∀ d ∈ c.list.digits, d.isDigit = true) →
      numeralValue c.list.digits = n.toNat →
      ∀ policy, sequence policy b [c.text] = .ok [.ofKind kind n]) ∧
    ((∃ d ∈ c.list.digits, d.isDigit = false) ∨ UInt64.size ≤ numeralValue c.list.digits →
      sequence .failFast b [c.text] = .error (.badNumeral (numeralFault c.list.digits)) ∧
      sequence .ignore b [c.text] = .ok [.ofKind kind 0]) := by
  have called : (calledHelper? c.text).bind b.kindOf? = some kind := by
    rw [c.calledHelper?_text, Option.bind_some, bound]
  have takes := takesOperand_iff.mpr scrambles
  constructor
  · intro n digits value policy
    have numeral : IsNumeral c.list.digits := ⟨digits, value ▸ n.toNat_lt_size⟩
    have read : readOperand kind c.text = .ok n := by
      rw [readOperand_ok c.operand?_text numeral, value, UInt64.ofNat_toNat]
    rw [sequence, operation?_read called takes read]
    rfl
  · intro unreadable
    have numeral : ¬ IsNumeral c.list.digits := by
      intro numeral
      obtain ⟨d, hd, other⟩ | large := unreadable
      · rw [numeral.1 d hd] at other
        cases other
      · exact Nat.not_lt.mpr large numeral.2
    constructor
    · have refused : Refused b c.text _ :=
        .unreadable c.calledHelper?_text bound scrambles c.operand?_text numeral
      rw [sequence, operation?_failFast_error.mpr refused]
      rfl
    · have unread : readOperand kind c.text = .error (.badNumeral (numeralFault c.list.digits)) :=
        readOperand_error c.operand?_text numeral
      rw [sequence, operation?_ignore_unread called takes unread]
      rfl

def slice (digits : Text) (nonempty : digits ≠ []) (all : digits.all Text.isDecimalDigit = true) :
    NumberedCall where
  object := ⟨['O'], by decide, rfl⟩
  helper := ⟨['s'], by decide, rfl⟩
  list :=
    ⟨⟨[' '], rfl⟩, ⟨['x'], by decide, rfl⟩, .nothing, .nothing, digits, .nothing, nonempty, all⟩

/-- The largest operand is kept behind two zeros, the number behind it is not, and neither is a
digit of another script. -/
theorem sequence_limit_edge :
    let b := Bindings.bind {} ['s'] .slice
    sequence .failFast b ["O.s( x,0018446744073709551615)".toList] =
      .ok [.slice 18446744073709551615] ∧
    sequence .failFast b ["O.s( x,18446744073709551616)".toList] = .error (.badNumeral .tooLarge) ∧
    sequence .ignore b ["O.s( x,18446744073709551616)".toList] = .ok [.slice 0] ∧
    sequence .failFast b ["O.s( x,1٣)".toList] = .error (.badNumeral .invalidDigit) := by
  intro b
  let largest := slice "0018446744073709551615".toList (by decide) (by decide)
  let next := slice "18446744073709551616".toList (by decide) (by decide)
  let other := slice "1٣".toList (by decide) (by decide)
  have ascii : ∀ d ∈ largest.list.digits, d.isDigit = true := List.all_eq_true.mp rfl
  have kept := (sequence_limit largest (b := b) rfl (.inl rfl)).1 18446744073709551615 ascii
    (by decide) .failFast
  have refused := (sequence_limit next (b := b) rfl (.inl rfl)).2 (.inr (by decide))
  have arabic : ∃ d ∈ other.list.digits, d.isDigit = false := ⟨'٣', by decide, rfl⟩
  have foreign := (sequence_limit other (b := b) rfl (.inl rfl)).2 (.inl arabic)
  exact ⟨kept, refused.1, refused.2, foreign.1⟩

end NumberedCall
end Descramble.Script
