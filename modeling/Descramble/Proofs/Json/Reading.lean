import Descramble.Proofs.Json.Grammar
import Descramble.Proofs.Text.Decimal

namespace Descramble.Json

namespace Space

/-- Space in front of something else is skipped, and nothing more. -/
theorem skipSpace_append (g : Space) (hc : Json.isSpace c = false) (s : Text) :
    skipSpace (g.text ++ c :: s) = c :: s := g.dropWhile_append hc s

theorem skipSpace_text (g : Space) : skipSpace g.text = [] := g.dropWhile_text

end Space

theorem nextItem_first (close : c ≠ ']') (h : skipSpace u = c :: s) :
    nextItem true u = .ok (some (c :: s)) := by
  simp [nextItem, h]

theorem nextItem_next (close : c ≠ ']') (h : skipSpace u = ',' :: t) (h' : skipSpace t = c :: s) :
    nextItem false u = .ok (some (c :: s)) := by
  simp [nextItem, h, h', close]

theorem nextItem_end (first : Bool) (h : skipSpace u = ']' :: s) : nextItem first u = .ok none := by
  simp [nextItem, h]

theorem nextKey_first (h : skipSpace u = '"' :: s) : nextKey true u = .ok (some s) := by
  simp [nextKey, h]

theorem nextKey_next (h : skipSpace u = ',' :: t) (h' : skipSpace t = '"' :: s) :
    nextKey false u = .ok (some s) := by
  simp [nextKey, h, h']

theorem nextKey_end (first : Bool) (h : skipSpace u = '}' :: s) : nextKey first u = .ok none := by
  simp [nextKey, h]

theorem colon_eq_ok (h : skipSpace u = ':' :: s) : colon u = .ok s := by
  simp [colon, h]

@[simp] theorem Halt.cause_settleList (halt : Halt) : halt.settleList.cause = halt.cause := by
  cases halt with
  | placed cause left => rfl
  | floating cause rest =>
    rw [settleList]
    split <;> rfl

@[simp] theorem Halt.cause_settleObject (halt : Halt) : halt.settleObject.cause = halt.cause := by
  cases halt with
  | placed cause left => rfl
  | floating cause rest =>
    rw [settleObject]
    split <;> rfl

theorem length_le_byteCount (s : Text) : s.length ≤ byteCount s := by
  induction s with
  | nil => rfl
  | cons c s ih =>
    have size := c.utf8Size_pos
    simp only [byteCount, List.foldr_cons, List.length_cons] at ih ⊢
    omega

theorem hexDigits_append (four : digits.length = 4) (number : hexNumber? digits = some n)
    (s : Text) : hexDigits (digits ++ s) = .ok (n, s) := by
  have front : (digits ++ s).take 4 = digits := by rw [← four, List.take_left]
  have behind : (digits ++ s).drop 4 = s := by rw [← four, List.drop_left]
  have bytes : ¬ byteCount digits < 4 := by
    rw [← four]
    exact Nat.not_lt.mpr (length_le_byteCount digits)
  rw [hexDigits, front, if_neg bytes, number, behind]

/-- No character is half of a pair. -/
theorem not_surrogate (c : Char) : isTrailing c.toNat = false ∧ isLeading c.toNat = false := by
  have valid := c.valid
  simp only [isTrailing, isLeading, Bool.and_eq_false_iff, decide_eq_false_iff_not]
  simp only [UInt32.isValidChar, Nat.isValidChar] at valid
  have : c.toNat = c.val.toNat := rfl
  omega

theorem isTrailing_leading (h : isLeading n) : isTrailing n = false := by
  simp only [isTrailing, isLeading, Bool.and_eq_true, decide_eq_true_eq, Bool.and_eq_false_iff,
    decide_eq_false_iff_not] at h ⊢
  omega

theorem string_escape (h : escape u = .ok (c, s)) :
    string ('\\' :: u) = (string s).map fun p => (c :: p.1, p.2) := by
  rw [string, if_neg (by decide), if_pos rfl]
  split
  · next read =>
    rw [h] at read
    cases read
  · next read =>
    rw [h] at read
    cases read
    rfl

/-- Each way to write a character is read as that character. -/
theorem string_character (h : Character c u) (s : Text) :
    string (u ++ s) = (string s).map fun p => (c :: p.1, p.2) := by
  cases h with
  | plain quote backslash control =>
    rw [List.singleton_append, string]
    simp [quote, backslash, Nat.not_lt.mpr control]
  | @short e _ letter =>
    apply string_escape
    simp only [shortEscapes, List.mem_cons, Prod.mk.injEq, List.not_mem_nil, or_false] at letter
    obtain ⟨rfl, rfl⟩ | ⟨rfl, rfl⟩ | ⟨rfl, rfl⟩ | ⟨rfl, rfl⟩ | ⟨rfl, rfl⟩ | ⟨rfl, rfl⟩ |
      ⟨rfl, rfl⟩ | ⟨rfl, rfl⟩ := letter <;> rfl
  | @code digits _ four number =>
    apply string_escape
    obtain ⟨trailing, leading⟩ := not_surrogate c
    simp [escape, unicodeEscape, hexDigits_append four number, bind, Except.bind, trailing, leading]
  | @pair high n low m four leading isLeading four' trailing isTrailing =>
    rw [List.cons_append, List.cons_append, List.append_assoc, List.cons_append, List.cons_append]
    apply string_escape
    simp [escape, unicodeEscape, hexDigits_append four leading, bind, Except.bind,
      isTrailing_leading isLeading, isLeading, trailingEscape, hexDigits_append four' trailing,
      isTrailing]

theorem string_spelled (h : Spelled s t) (rest : Text) :
    string (t ++ '"' :: rest) = .ok (s, rest) := by
  induction h with
  | nil => rw [List.nil_append, string, if_pos rfl]
  | cons first more ih =>
    rw [List.append_assoc, string_character first, ih]
    rfl

/-- What may stand behind a numeral without being part of it. -/
def EndsNumeral (s : Text) : Prop :=
  ∀ c ∈ s.head?, c.isDigit = false ∧ c ≠ '.' ∧ isExponentMark c = false

theorem endsNumeral_cons (other : c.isDigit = false ∧ c ≠ '.' ∧ isExponentMark c = false)
    (s : Text) : EndsNumeral (c :: s) := by
  intro d hd
  obtain rfl : c = d := Option.some.inj hd
  exact other

theorem Space.endsNumeral (g : Space) (h : EndsNumeral s) : EndsNumeral (g.text ++ s) := by
  cases front : g.text with
  | nil => exact h
  | cons c r =>
    have space : Json.isSpace c = true := g.forall_mem c (front ▸ List.mem_cons_self)
    apply endsNumeral_cons
    simp only [Json.isSpace, Bool.or_eq_true, beq_iff_eq] at space
    obtain ((rfl | rfl) | rfl) | rfl := space <;> decide

/-- Digits of a number below 2^64 all find room in the significand. -/
theorem absorb_digits (digits : ∀ c ∈ ds, c.isDigit = true)
    (small : Nat.ofDigitChars 10 ds v < UInt64.size) (stop : EndsNumeral rest) :
    absorb v (ds ++ rest) = (Nat.ofDigitChars 10 ds v, rest) := by
  induction ds generalizing v with
  | nil =>
    cases rest with
    | nil => rfl
    | cons c rest => simp [absorb, (stop c rfl).1]
  | cons c ds ih =>
    have value : Text.digitValue c = c.toNat - '0'.toNat := rfl
    have grows := Text.le_ofDigitChars ds (10 * v + Text.digitValue c)
    rw [Nat.ofDigitChars_cons, ← value] at small ⊢
    rw [List.cons_append, absorb, if_pos ⟨digits c List.mem_cons_self, by omega⟩]
    exact ih (fun d hd => digits d (List.mem_cons_of_mem c hd)) small

/-- Digits that exceed 64 bits are absorbed up to one that no longer fits. -/
theorem absorb_excess (digits : ∀ c ∈ ds, c.isDigit = true)
    (large : UInt64.size ≤ Nat.ofDigitChars 10 ds v) (small : v < UInt64.size) (rest : Text) :
    ∃ w excess, absorb v (ds ++ rest) = (w, excess ++ rest) ∧ excess ≠ [] ∧
      ∀ c ∈ excess, c.isDigit = true := by
  induction ds generalizing v with
  | nil =>
    rw [Nat.ofDigitChars_nil] at large
    omega
  | cons c ds ih =>
    have value : Text.digitValue c = c.toNat - '0'.toNat := rfl
    have digit := digits c List.mem_cons_self
    rw [Nat.ofDigitChars_cons, ← value] at large
    rw [List.cons_append, absorb]
    by_cases fits : 10 * v + Text.digitValue c < UInt64.size
    · rw [if_pos ⟨digit, fits⟩]
      exact ih (fun d hd => digits d (List.mem_cons_of_mem c hd)) large fits
    · rw [if_neg fun both => fits both.2]
      exact ⟨v, c :: ds, rfl, List.cons_ne_nil c ds, digits⟩

theorem digitRun_append (digits : ∀ c ∈ ds, c.isDigit = true) (stop : EndsNumeral rest) :
    digitRun (ds ++ rest) = (ds, rest) := by
  rw [digitRun, List.takeWhile_append_of_pos digits, List.dropWhile_append_of_pos digits]
  cases rest with
  | nil => simp
  | cons c rest => simp [(stop c rfl).1]

/-- A numeral below 2^64 is read as its number. -/
theorem number_decimal (negative : Bool) (small : n < UInt64.size) (stop : EndsNumeral rest) :
    number negative (Text.decimal n ++ rest) = .ok (wholeNumber negative n, rest) := by
  obtain ⟨c, ds, front, leading⟩ := Text.decimal_cons n
  have digits : ∀ d ∈ c :: ds, d.isDigit = true := by
    intro d hd
    exact Text.isDigit_of_mem_decimal (front ▸ hd)
  have value : Nat.ofDigitChars 10 (c :: ds) 0 = n := front ▸ Text.ofDigitChars_decimal n
  have single : ¬ (c = '0' ∧ ((ds ++ rest).head?.any Char.isDigit) = true) := by
    intro both
    obtain ⟨zero, more⟩ := both
    rw [(leading zero).2, List.nil_append] at more
    cases rest with
    | nil => cases more
    | cons d rest =>
      rw [List.head?_cons, Option.any_some, (stop d rfl).1] at more
      cases more
  have significand : (if c = '0' then (0, ds ++ rest) else absorb 0 (c :: (ds ++ rest))) =
      (n, rest) := by
    split
    · next zero => rw [(leading zero).1, (leading zero).2, List.nil_append]
    · have whole := absorb_digits digits (value ▸ small) stop
      rwa [value] at whole
  have run := digitRun_append (List.forall_mem_nil _) stop
  rw [front, List.cons_append, number]
  rw [List.nil_append] at run
  simp only [digits c List.mem_cons_self, Bool.not_true, Bool.false_eq_true, if_false, single,
    significand, run]
  cases rest with
  | nil => rfl
  | cons d rest =>
    obtain ⟨-, point, mark⟩ := stop d rfl
    simp [mark]

/-- A numeral from 2^64 on is read as a float, or it is too large for a float. -/
theorem number_excess (negative : Bool) (large : UInt64.size ≤ n) (stop : EndsNumeral rest) :
    ∃ w k, number negative (Text.decimal n ++ rest) = scaled negative w k rest := by
  obtain ⟨c, ds, front, leading⟩ := Text.decimal_cons n
  have digits : ∀ d ∈ c :: ds, d.isDigit = true := by
    intro d hd
    exact Text.isDigit_of_mem_decimal (front ▸ hd)
  have value : Nat.ofDigitChars 10 (c :: ds) 0 = n := front ▸ Text.ofDigitChars_decimal n
  have nonzero : c ≠ '0' := by
    intro zero
    rw [(leading zero).1] at large
    exact absurd large (by decide)
  obtain ⟨w, excess, absorbed, more, run⟩ := absorb_excess digits (value ▸ large) (by decide) rest
  have stretch := digitRun_append run stop
  have excessive : excess.isEmpty = false := by simpa using more
  refine ⟨w, excess.length, ?_⟩
  rw [List.cons_append] at absorbed
  rw [front, List.cons_append, number]
  simp only [digits c List.mem_cons_self, Bool.not_true, Bool.false_eq_true, if_false, nonzero,
    false_and, absorbed, stretch, excessive]
  cases rest with
  | nil => rfl
  | cons d rest =>
    obtain ⟨-, point, mark⟩ := stop d rfl
    simp [mark]

end Descramble.Json
