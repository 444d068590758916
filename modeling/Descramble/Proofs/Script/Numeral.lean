import Descramble.Proofs.Text.Decimal
import Descramble.Script.Sequence

namespace Descramble.Script

def numeralValue (ds : Text) : Nat := Nat.ofDigitChars 10 ds 0

/-- Every digit is ASCII and the number is below 2^64. -/
def IsNumeral (ds : Text) : Prop := (∀ c ∈ ds, c.isDigit = true) ∧ numeralValue ds < UInt64.size

/-- What is wrong with other digits. A number that is too large in front of the first digit that
is not ASCII is found first. -/
def numeralFault (ds : Text) : NumeralFault :=
  if UInt64.size ≤ numeralValue (ds.takeWhile Char.isDigit) then .tooLarge else .invalidDigit

/-- The digits are read from the left, up to the first that is not ASCII or exceeds the limit. -/
theorem readDigits_eq (ds : Text) (hv : v < UInt64.size) :
    readDigits v ds =
      if UInt64.size ≤ Nat.ofDigitChars 10 (ds.takeWhile Char.isDigit) v then .error .tooLarge
      else if ds.all Char.isDigit then .ok (Nat.ofDigitChars 10 ds v)
      else .error .invalidDigit := by
  induction ds generalizing v with
  | nil => simp [readDigits, Nat.not_le.mpr hv]
  | cons c ds ih =>
    cases hc : c.isDigit with
    | false => simp [readDigits, hc, Nat.not_le.mpr hv]
    | true =>
      have value : Text.digitValue c = c.toNat - '0'.toNat := rfl
      rw [readDigits, if_pos hc, List.takeWhile_cons_of_pos hc, Nat.ofDigitChars_cons,
        Nat.ofDigitChars_cons, ← value, List.all_cons, hc, Bool.true_and]
      by_cases small : 10 * v + Text.digitValue c < UInt64.size
      · rw [if_pos small, ih small]
      · have large := Text.le_ofDigitChars (ds.takeWhile Char.isDigit) (10 * v + Text.digitValue c)
        rw [if_neg small, if_pos (by omega)]

theorem readDigits_ok (h : IsNumeral ds) : readDigits 0 ds = .ok (numeralValue ds) := by
  obtain ⟨digits, small⟩ := h
  have whole : ds.takeWhile Char.isDigit = ds := List.takeWhile_eq_self_iff.mpr digits
  rw [readDigits_eq ds (by decide), whole, ← numeralValue, if_neg (Nat.not_le.mpr small),
    if_pos (List.all_eq_true.mpr digits)]

theorem readDigits_error (h : ¬ IsNumeral ds) : readDigits 0 ds = .error (numeralFault ds) := by
  rw [readDigits_eq ds (by decide), ← numeralValue, numeralFault]
  by_cases large : UInt64.size ≤ numeralValue (ds.takeWhile Char.isDigit)
  · rw [if_pos large, if_pos large]
  · have other : ¬ ds.all Char.isDigit = true := by
      intro digits
      have digits := List.all_eq_true.mp digits
      rw [List.takeWhile_eq_self_iff.mpr digits] at large
      exact h ⟨digits, Nat.not_le.mp large⟩
    rw [if_neg large, if_neg large, if_neg other]

/-- The numeral of an operand is read as the operand. -/
theorem readDigits_decimal (n : UInt64) : readDigits 0 (Text.decimal n.toNat) = .ok n.toNat := by
  have digits : ∀ c ∈ Text.decimal n.toNat, c.isDigit = true := fun c hc =>
    Text.isDigit_of_mem_decimal hc
  have value : numeralValue (Text.decimal n.toNat) = n.toNat := Text.ofDigitChars_decimal n.toNat
  have small : numeralValue (Text.decimal n.toNat) < UInt64.size := by
    rw [value]
    exact n.toNat_lt_size
  rw [readDigits_ok ⟨digits, small⟩, value]

end Descramble.Script
