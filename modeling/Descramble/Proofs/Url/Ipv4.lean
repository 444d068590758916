import Mathlib.Algebra.Group.Nat.Defs
import Mathlib.Data.List.Induction
import Descramble.Proofs.Text.Decimal
import Descramble.Proofs.Text.Pieces
import Descramble.Url.Host

namespace Descramble.Url.Ipv4

theorem digit?_digitChar : ∀ d < 16, numeral?.digit? (Nat.digitChar d) = some d := by decide

theorem numeral?_append (base : Nat) (s : Text) (c : Char) :
    numeral? base (s ++ [c]) =
      (numeral? base s).bind fun n =>
        (numeral?.digit? c).bind fun d => if d < base then some (base * n + d) else none := by
  simp only [numeral?, List.foldlM_append, List.foldlM_cons, List.foldlM_nil, bind_pure]
  rfl

/-- A number is read from its digits in any base that has them. -/
theorem numeral?_toDigits (hb : 1 < base) (few : base ≤ 16) (n : Nat) :
    numeral? base (Nat.toDigits base n) = some n := by
  induction n using Nat.strongRecOn with
  | ind n ih =>
    rw [Nat.toDigits_eq_if hb]
    split
    · next small =>
      have value := digit?_digitChar n (by omega)
      have first := numeral?_append base [] (Nat.digitChar n)
      rw [List.nil_append] at first
      rw [first, value]
      simp [numeral?, small]
    · next large =>
      -- The last digit is read behind those of the quotient.
      have front := ih (n / base) (Nat.div_lt_self (by omega) hb)
      have digit : n % base < base := Nat.mod_lt n (by omega)
      have value := digit?_digitChar (n % base) (by omega)
      have whole : base * (n / base) + n % base = n := Nat.div_add_mod n base
      rw [numeral?_append, front, value, Option.bind_some, Option.bind_some, if_pos digit, whole]

theorem numeral?_lt (h : numeral? base s = some n) : n < base ^ s.length := by
  induction s using List.reverseRecOn generalizing n with
  | nil =>
    cases h
    simp
  | append_singleton s c ih =>
    rw [numeral?_append] at h
    obtain ⟨m, hm, h⟩ := Option.bind_eq_some_iff.mp h
    obtain ⟨d, -, h⟩ := Option.bind_eq_some_iff.mp h
    obtain ⟨digit, h⟩ := Option.ite_none_right_eq_some.mp h
    obtain rfl := Option.some.inj h
    have front := ih hm
    calc base * m + d < base * m + base := by omega
      _ = base * (m + 1) := (Nat.mul_succ base m).symm
      _ ≤ base * base ^ s.length := Nat.mul_le_mul_left base front
      _ = base ^ (s ++ [c]).length := by
        rw [List.length_append, List.length_singleton, Nat.pow_succ, Nat.mul_comm]

/-- A decimal numeral has no zero in front, so it is neither octal nor hexadecimal. -/
theorem part?_decimal (n : Nat) : part? (Text.decimal n) = some n := by
  have value : numeral? 10 (Text.decimal n) = some n := numeral?_toDigits (by omega) (by omega) n
  obtain ⟨c, ds, numeral, leading⟩ := Text.decimal_cons n
  rw [numeral] at value ⊢
  by_cases zero : c = '0'
  · obtain ⟨-, rfl⟩ := leading zero
    rw [← value, zero]
    rfl
  · rw [part?]
    · exact value
    all_goals simp [zero]

theorem fold_lt (ps : List Nat) (h : ∀ p ∈ ps, p < 256) (n : Nat) :
    ps.foldl (fun n p => 256 * n + p) n < 256 ^ ps.length * (n + 1) := by
  induction ps generalizing n with
  | nil => simp
  | cons p ps ih =>
    obtain ⟨hp, hps⟩ := List.forall_mem_cons.mp h
    calc (p :: ps).foldl (fun n p => 256 * n + p) n
        < 256 ^ ps.length * (256 * n + p + 1) := ih hps (256 * n + p)
      _ ≤ 256 ^ ps.length * (256 * (n + 1)) := Nat.mul_le_mul_left _ (by omega)
      _ = 256 ^ (p :: ps).length * (n + 1) := by
        rw [List.length_cons, Nat.pow_succ, Nat.mul_assoc]

/-- However many parts there are, they make an address of 32 bits. -/
theorem combine?_lt (h : combine? parts = some address) : address < 2 ^ 32 := by
  unfold combine? at h
  split at h
  · contradiction
  next last front _ =>
    obtain ⟨⟨few, bound, bytes⟩, h⟩ := Option.ite_none_right_eq_some.mp h
    obtain rfl := Option.some.inj h
    have small : ∀ p ∈ front.reverse, p < 256 := by simpa using bytes
    have high := fold_lt front.reverse small 0
    rw [List.length_reverse] at high
    generalize front.reverse.foldl (fun n p => 256 * n + p) 0 = value at high ⊢
    calc value * 256 ^ (4 - front.length) + last
        < value * 256 ^ (4 - front.length) + 256 ^ (4 - front.length) :=
          Nat.add_lt_add_left bound _
      _ = (value + 1) * 256 ^ (4 - front.length) := (Nat.succ_mul value _).symm
      _ ≤ 256 ^ front.length * 256 ^ (4 - front.length) := Nat.mul_le_mul_right _ (by omega)
      _ = 256 ^ 4 := by rw [← Nat.pow_add, Nat.add_sub_cancel' (by omega)]
      _ = 2 ^ 32 := rfl

theorem ofLabels?_lt (h : ofLabels? labels = some address) : address < 2 ^ 32 := by
  obtain ⟨parts, -, h⟩ := Option.bind_eq_some_iff.mp h
  exact combine?_lt h

def bytes (address : Nat) : List Nat :=
  [address / 16777216 % 256, address / 65536 % 256, address / 256 % 256, address % 256]

/-- The text has decimal digits and dots. -/
theorem forall_mem_text {P : Char → Prop} (dot : P '.') (digits : ∀ d < 10, P (Nat.digitChar d))
    (address : Nat) : ∀ c ∈ text address, P c := by
  intro c hc
  rcases Text.mem_join hc with hc | ⟨s, hs, hc⟩
  · exact List.mem_singleton.mp hc ▸ dot
  · obtain ⟨n, -, rfl⟩ := List.mem_map.mp hs
    exact Text.forall_mem_toDigits (by omega) digits n c hc

theorem decimal_ne_nil (n : Nat) : Text.decimal n ≠ [] := Nat.toDigits_ne_nil

theorem dot_not_mem_decimal (n : Nat) : '.' ∉ Text.decimal n :=
  fun dot => Text.ne_of_isDigit (Text.isDigit_of_mem_decimal dot) rfl rfl

theorem text_ne_nil (address : Nat) : text address ≠ [] := by
  have first := decimal_ne_nil (address / 16777216 % 256)
  simp [text, Text.join, List.intercalate_cons_cons, first]

theorem labels_text (address : Nat) :
    Text.pieces (· == '.') (text address) = (bytes address).map Text.decimal := by
  apply Text.pieces_join
  · intro p hp
    obtain ⟨n, -, rfl⟩ := List.mem_map.mp hp
    exact dot_not_mem_decimal n
  · simp

theorem parts_decimal (ns : List Nat) : (ns.map Text.decimal).mapM part? = some ns := by
  induction ns with
  | nil => rfl
  | cons n ns ih => simp [part?_decimal, ih]

theorem combine?_bytes (h : address < 2 ^ 32) : combine? (bytes address) = some address := by
  have low (n : Nat) : n % 256 < 256 := Nat.mod_lt n (by omega)
  have last : Nat.pow 256 (4 - (0 + 1 + 1 + 1)) = 256 := rfl
  have whole : (256 * (256 * (256 * 0 + address / 16777216 % 256) + address / 65536 % 256) +
      address / 256 % 256) * 256 + address % 256 = address := by omega
  simp only [combine?, bytes, List.reverse_cons, List.reverse_nil, List.nil_append,
    List.cons_append, List.length_cons, List.length_nil, List.all_cons, List.all_nil, low,
    List.foldl_cons, List.foldl_nil, decide_true, Bool.and_self, last, whole]
  rfl

theorem lastLabel_append (h : label ≠ []) (labels : List Text) :
    lastLabel (labels ++ [label]) = label := by
  cases label with
  | nil => contradiction
  | cons c s =>
    rw [lastLabel, List.reverse_append]
    rfl

theorem isNumeric_text (address : Nat) :
    isNumeric (Text.pieces (· == '.') (text address)) = true := by
  have last : lastLabel ((bytes address).map Text.decimal) = Text.decimal (address % 256) :=
    lastLabel_append (decimal_ne_nil _) ((bytes address).dropLast.map Text.decimal)
  rw [labels_text, isNumeric, last, part?_decimal, Option.isSome_some, Bool.or_true]

theorem ofLabels?_text (h : address < 2 ^ 32) :
    ofLabels? (Text.pieces (· == '.') (text address)) = some address := by
  have full : ((bytes address).map Text.decimal).getLast? ≠ some [] := by
    simpa [bytes] using decimal_ne_nil (address % 256)
  rw [labels_text, ofLabels?]
  simp only [full, if_false, parts_decimal]
  exact combine?_bytes h

end Descramble.Url.Ipv4
