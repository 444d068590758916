import Mathlib.Data.List.TakeWhile
import Descramble.Text.Character

namespace Descramble.Text

theorem le_ofDigitChars (ds : Text) (v : Nat) : v ≤ Nat.ofDigitChars 10 ds v := by
  induction ds generalizing v with
  | nil => simp
  | cons c ds ih =>
    rw [Nat.ofDigitChars_cons]
    have step := ih (10 * v + (c.toNat - '0'.toNat))
    omega

theorem mem_toDigits (hb : 1 < b) (h : c ∈ Nat.toDigits b n) : ∃ d < b, c = Nat.digitChar d := by
  induction n using Nat.strongRecOn with
  | ind n ih =>
    rw [Nat.toDigits_eq_if hb] at h
    split at h
    · next small => exact ⟨n, small, List.mem_singleton.mp h⟩
    · next large =>
      rcases List.mem_append.mp h with h | h
      · exact ih (n / b) (Nat.div_lt_self (by omega) hb) h
      · exact ⟨n % b, Nat.mod_lt n (by omega), List.mem_singleton.mp h⟩

theorem forall_mem_toDigits {P : Char → Prop} (hb : 1 < b)
    (digits : ∀ d < b, P (Nat.digitChar d)) (n : Nat) : ∀ c ∈ Nat.toDigits b n, P c := by
  intro c hc
  obtain ⟨d, hd, rfl⟩ := mem_toDigits hb hc
  exact digits d hd

theorem isDigit_of_mem_decimal (h : c ∈ decimal n) : c.isDigit = true :=
  Nat.isDigit_of_mem_toDigits (by decide) (by decide) h

theorem ne_of_isDigit {c d : Char} (digit : c.isDigit = true) (other : d.isDigit = false) :
    c ≠ d := by
  intro same
  rw [same, other] at digit
  cases digit

theorem ofDigitChars_decimal (n : Nat) : Nat.ofDigitChars 10 (decimal n) 0 = n :=
  Nat.ofDigitChars_ten_toDigits

theorem decimal_inj : decimal n = decimal m ↔ n = m := by
  constructor
  · intro same
    rw [← ofDigitChars_decimal n, same, ofDigitChars_decimal]
  · intro same
    rw [same]

theorem digitChar_eq_zero : ∀ n < 10, Nat.digitChar n = '0' → n = 0 := by decide

/-- The numeral of zero is a zero, and no other begins with one. -/
theorem decimal_cons (n : Nat) :
    ∃ c ds, decimal n = c :: ds ∧ (c = '0' → n = 0 ∧ ds = []) := by
  induction n using Nat.strongRecOn with
  | ind n ih =>
    by_cases small : n < 10
    · refine ⟨Nat.digitChar n, [], Nat.toDigits_of_lt_base small, ?_⟩
      intro zero
      exact ⟨digitChar_eq_zero n small zero, rfl⟩
    · obtain ⟨c, ds, front, leading⟩ := ih (n / 10) (by omega)
      refine ⟨c, ds ++ [Nat.digitChar (n % 10)], ?_, ?_⟩
      · rw [decimal, Nat.toDigits_of_base_le (by decide) (by omega)]
        rw [decimal] at front
        rw [front, List.cons_append]
      · intro zero
        have zero := (leading zero).1
        omega

end Descramble.Text
