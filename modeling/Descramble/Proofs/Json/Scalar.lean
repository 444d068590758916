import Descramble.Json.Skip
import Descramble.Proofs.Json.Value

namespace Descramble.Json

abbrev Digits := Text.Span Char.isDigit

/-- The ways to write the whole part of a number: a zero leads only if it stands alone. -/
inductive WholePart : Text → Prop
  | zero : WholePart ['0']
  | digits (ds : Digits) (leading : ds.text.head? ≠ some '0') : WholePart ds.text

inductive ExponentPart : Text → Prop
  | absent : ExponentPart []
  | unsigned (mark : isExponentMark e = true) (ds : Digits) : ExponentPart (e :: ds.text)
  | signed (mark : isExponentMark e = true) (sign : c = '+' ∨ c = '-') (ds : Digits) :
    ExponentPart (e :: c :: ds.text)

/-- The ways to write a number without its sign, of any size and with any number of places. -/
inductive Numeral : Text → Prop
  | whole (whole : WholePart w) (exponent : ExponentPart e) : Numeral (w ++ e)
  | point (whole : WholePart w) (places : Digits) (exponent : ExponentPart e) :
    Numeral (w ++ '.' :: (places.text ++ e))

/-- The ways to write what stands between the quotes of a string, of which only the form matters: the
escape for half of a pair may also stand alone. -/
inductive Quotable : Text → Prop
  | nil : Quotable []
  | plain (quote : c ≠ '"') (backslash : c ≠ '\\') (control : 32 ≤ c.toNat) (rest : Quotable t) :
    Quotable (c :: t)
  | short (letter : (e, c) ∈ shortEscapes) (rest : Quotable t) : Quotable ('\\' :: e :: t)
  | code (four : digits.length = 4) (number : hexNumber? digits = some n) (rest : Quotable t) :
    Quotable ('\\' :: 'u' :: (digits ++ t))

inductive Scalar : Text → Prop
  | null : Scalar ['n', 'u', 'l', 'l']
  | true : Scalar ['t', 'r', 'u', 'e']
  | false : Scalar ['f', 'a', 'l', 's', 'e']
  | number (numeral : Numeral t) : Scalar t
  | negative (numeral : Numeral t) : Scalar ('-' :: t)
  | string (content : Quotable t) : Scalar ('"' :: (t ++ ['"']))

variable {s t w rest : Text} {c e : Char} {fuel : Nat}

theorem skipEscape_short (letter : (e, c) ∈ shortEscapes) (s : Text) :
    skipEscape (e :: s) = .ok s := by
  simp only [shortEscapes, List.mem_cons, Prod.mk.injEq, List.not_mem_nil, or_false] at letter
  obtain ⟨rfl, rfl⟩ | ⟨rfl, rfl⟩ | ⟨rfl, rfl⟩ | ⟨rfl, rfl⟩ | ⟨rfl, rfl⟩ | ⟨rfl, rfl⟩ |
    ⟨rfl, rfl⟩ | ⟨rfl, rfl⟩ := letter <;> rfl

theorem skipString_escape (h : skipEscape s = .ok t) : skipString ('\\' :: s) = skipString t := by
  rw [skipString, if_neg (by decide), if_pos rfl]
  split
  · next read =>
    rw [h] at read
    cases read
  · next read =>
    rw [h] at read
    cases read
    rfl

theorem skipString_quotable (h : Quotable t) (rest : Text) :
    skipString (t ++ '"' :: rest) = .ok rest := by
  induction h with
  | nil => rw [List.nil_append, skipString, if_pos rfl]
  | plain quote backslash control more ih =>
    rw [List.cons_append, skipString]
    simp [quote, backslash, Nat.not_lt.mpr control, ih]
  | short letter more ih =>
    rw [List.cons_append, List.cons_append, skipString_escape (skipEscape_short letter _), ih]
  | @code digits n t four number more ih =>
    have read : skipEscape ('u' :: (digits ++ (t ++ '"' :: rest))) = .ok (t ++ '"' :: rest) := by
      simp [skipEscape, hexDigits_append four number, Except.map]
    rw [List.cons_append, List.cons_append, List.append_assoc, skipString_escape read, ih]

/-- Digits are passed over up to what follows the number or its part. -/
theorem dropWhile_digits (digits : ∀ c ∈ s, c.isDigit = true)
    (stop : ∀ c ∈ rest.head?, c.isDigit = false) : (s ++ rest).dropWhile Char.isDigit = rest := by
  rw [List.dropWhile_append_of_pos digits]
  cases rest with
  | nil => rfl
  | cons c rest => rw [List.dropWhile_cons_of_neg (by simp [stop c rfl])]

/-- Behind a mark the exponent is passed over. -/
theorem skipExponent_digits (ds : Digits) (stop : ∀ c ∈ rest.head?, c.isDigit = false) :
    skipExponent (ds.text ++ rest) = .ok rest := by
  obtain ⟨c, r, front, digit, digits⟩ := ds.exists_cons
  have other {d : Char} := Text.ne_of_isDigit (d := d) digit
  have unsigned : c ≠ '+' ∧ c ≠ '-' := ⟨other rfl, other rfl⟩
  rw [front, List.cons_append, skipExponent]
  · simp [digit, dropWhile_digits digits stop]
  · simp [unsigned]
  · simp [unsigned]

theorem skipExponent_sign (sign : c = '+' ∨ c = '-') (ds : Digits)
    (stop : ∀ c ∈ rest.head?, c.isDigit = false) :
    skipExponent (c :: (ds.text ++ rest)) = .ok rest := by
  obtain ⟨d, r, front, digit, digits⟩ := ds.exists_cons
  rw [front, List.cons_append]
  rcases sign with rfl | rfl <;> simp [skipExponent, digit, dropWhile_digits digits stop]

theorem skipNumberTail_exponent (h : ExponentPart s) (stop : EndsNumeral rest) :
    skipNumberTail (s ++ rest) = .ok rest := by
  have ends : ∀ c ∈ rest.head?, c.isDigit = false := fun c hc => (stop c hc).1
  cases h with
  | absent =>
    cases rest with
    | nil => rfl
    | cons c rest => simp [skipNumberTail, (stop c rfl).2.2]
  | unsigned mark ds =>
    rw [List.cons_append, skipNumberTail, if_pos mark, skipExponent_digits ds ends]
  | signed mark sign ds =>
    rw [List.cons_append, List.cons_append, skipNumberTail, if_pos mark,
      skipExponent_sign sign ds ends]

theorem not_isDigit_of_isExponentMark (mark : isExponentMark e = true) :
    e.isDigit = false ∧ e ≠ '.' := by
  rw [isExponentMark, Bool.or_eq_true, beq_iff_eq, beq_iff_eq] at mark
  obtain rfl | rfl := mark <;> decide

/-- What follows the digits of a number. -/
theorem ExponentPart.head (h : ExponentPart s) (stop : EndsNumeral rest) :
    ∀ c ∈ (s ++ rest).head?, c.isDigit = false ∧ c ≠ '.' := by
  intro c hc
  cases h with
  | absent => exact ⟨(stop c hc).1, (stop c hc).2.1⟩
  | unsigned mark ds | signed mark sign ds =>
    obtain rfl := Option.some.inj hc
    exact not_isDigit_of_isExponentMark mark

def skipPlaces : Text → Except Halt Text
  | '.' :: t =>
    if t.head?.any Char.isDigit then skipNumberTail (t.dropWhile Char.isDigit)
    else .error (.past .invalidNumber t)
  | t => skipNumberTail t

theorem skipNumber_whole (h : WholePart w) (stop : ∀ c ∈ s.head?, c.isDigit = false) :
    skipNumber (w ++ s) = skipPlaces s := by
  cases h with
  | zero =>
    have single : s.head?.any Char.isDigit = false := by
      cases s with
      | nil => rfl
      | cons c s => exact stop c rfl
    rw [List.singleton_append, skipNumber, if_neg (by decide), if_neg (by simp [single]),
      if_pos rfl]
    rfl
  | digits ds leading =>
    obtain ⟨c, r, front, digit, digits⟩ := ds.exists_cons
    have nonzero : c ≠ '0' := by
      rintro rfl
      exact leading (by rw [front]; rfl)
    rw [front, List.cons_append, skipNumber, if_neg (by simp [digit]), if_neg (by simp [nonzero]),
      if_neg nonzero, dropWhile_digits digits stop]
    rfl

theorem skipPlaces_point (ds : Digits) (stop : ∀ c ∈ s.head?, c.isDigit = false) :
    skipPlaces ('.' :: (ds.text ++ s)) = skipNumberTail s := by
  obtain ⟨c, r, front, digit, -⟩ := ds.exists_cons
  have place : (ds.text ++ s).head?.any Char.isDigit = true := by simp [front, digit]
  rw [skipPlaces, if_pos place, dropWhile_digits ds.forall_mem stop]

theorem skipPlaces_of_ne (stop : ∀ c ∈ s.head?, c ≠ '.') : skipPlaces s = skipNumberTail s := by
  rw [skipPlaces]
  rintro t rfl
  exact stop '.' rfl rfl

/-- A number that is written correctly is passed over to its end. -/
theorem skipNumber_numeral (h : Numeral t) (stop : EndsNumeral rest) :
    skipNumber (t ++ rest) = .ok rest := by
  cases h with
  | whole whole exponent =>
    have ends := exponent.head stop
    rw [List.append_assoc, skipNumber_whole whole fun c hc => (ends c hc).1,
      skipPlaces_of_ne fun c hc => (ends c hc).2, skipNumberTail_exponent exponent stop]
  | point whole places exponent =>
    have ends := exponent.head stop
    rw [List.append_assoc, List.cons_append, List.append_assoc, skipNumber_whole whole (by simp),
      skipPlaces_point places fun c hc => (ends c hc).1, skipNumberTail_exponent exponent stop]

theorem numeral_cons (h : Numeral t) : ∃ c r, t = c :: r ∧ c.isDigit = true := by
  have front : ∀ {w : Text} (s), WholePart w → ∃ c r, w ++ s = c :: r ∧ c.isDigit = true := by
    intro w s whole
    cases whole with
    | zero => exact ⟨'0', s, rfl, rfl⟩
    | digits ds leading =>
      obtain ⟨c, r, split, digit, -⟩ := ds.exists_cons
      exact ⟨c, r ++ s, by rw [split, List.cons_append], digit⟩
  cases h with
  | whole whole exponent | point whole places exponent => exact front _ whole

theorem scalar_cons (h : Scalar t) : ∃ c r, t = c :: r ∧ isSpace c = false := by
  cases h with
  | number numeral =>
    obtain ⟨c, r, front, digit⟩ := numeral_cons numeral
    exact ⟨c, r, front, (not_isSpace_of_isDigit digit).1⟩
  | _ => exact ⟨_, _, rfl, rfl⟩

theorem Space.skipSpace_scalar (g : Space) (h : Scalar t) (s : Text) :
    skipSpace (g.text ++ (t ++ s)) = t ++ s := by
  obtain ⟨c, r, rfl, space⟩ := scalar_cons h
  exact g.skipSpace_append space _

theorem skipScalar?_scalar (h : Scalar t) (stop : EndsNumeral rest) :
    skipScalar? (t ++ rest) = some (.ok rest) := by
  cases h with
  | null | true | false => rfl
  | string content =>
    rw [List.cons_append, List.append_assoc]
    simp [skipScalar?, skipString_quotable content rest]
  | negative numeral => simp [skipScalar?, skipNumber_numeral numeral stop]
  | number numeral =>
    have read := skipNumber_numeral numeral stop
    obtain ⟨c, r, front, digit⟩ := numeral_cons numeral
    have other {d : Char} := Text.ne_of_isDigit (d := d) digit
    have letters : c ≠ 'n' ∧ c ≠ 't' ∧ c ≠ 'f' ∧ c ≠ '-' :=
      ⟨other rfl, other rfl, other rfl, other rfl⟩
    rw [front, List.cons_append] at read ⊢
    simp [skipScalar?, letters, digit, read]

/-- A value without parts is passed over, whatever its size or its text. -/
theorem skip_scalar (h : Scalar t) (front : skipSpace s = t ++ rest) (stop : EndsNumeral rest) :
    skip (fuel + 1) s = .ok rest := by
  have found := skipScalar?_scalar h stop
  obtain ⟨c, r, rfl, -⟩ := scalar_cons h
  rw [List.cons_append] at front found
  rw [skip]
  simp only [front, found]

end Descramble.Json
