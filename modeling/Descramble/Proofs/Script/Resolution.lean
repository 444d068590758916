import Mathlib.Data.List.Forall2
import Descramble.Proofs.Script.Argument

namespace Descramble.Script

/-- From this position of the statement stands a list of a name and these digits, in parentheses. -/
def OperandAt (s : Text) (i : Nat) (digits : Text) : Prop :=
  ∃ (l : OperandForm) (rest : Text), s.drop i = '(' :: (l.inside ++ rest) ∧ l.digits = digits

/-- The digits of the first such list are ASCII and have this value. -/
def Reads (s : Text) (n : UInt64) : Prop :=
  ∃ digits, Text.First (OperandAt s) digits ∧ (∀ c ∈ digits, c.isDigit = true) ∧
    numeralValue digits = n.toNat

def resolves (b : Bindings) (s : Text) : Bool := ((calledHelper? s).bind b.kindOf?).isSome

/-- The operation that a statement stands for under the permissive policy. -/
inductive StandsFor (b : Bindings) (s : Text) : Operation → Prop
  | reverse (bound : (calledHelper? s).bind b.kindOf? = some .reverse) : StandsFor b s .reverse
  | number (bound : (calledHelper? s).bind b.kindOf? = some kind)
    (takes : kind.takesOperand = true) (read : Reads s n) : StandsFor b s (.ofKind kind n)
  | zero (bound : (calledHelper? s).bind b.kindOf? = some kind)
    (takes : kind.takesOperand = true) (unread : ∀ n, ¬ Reads s n) :
    StandsFor b s (.ofKind kind 0)

theorem operandAt_iff :
    OperandAt s i digits ↔ ∃ o, operandAt? (s.drop i) = some o ∧ o.digits = digits := by
  constructor
  · intro written
    obtain ⟨l, rest, split, rfl⟩ := written
    exact ⟨⟨l.digits, l.inside ++ rest⟩, by rw [split, l.operandAt?_inside], rfl⟩
  · intro found
    obtain ⟨o, here, rfl⟩ := found
    obtain ⟨l, rest, split, rfl⟩ := operandAt?_eq_some_iff.mp here
    exact ⟨l, rest, split, rfl⟩

theorem operand?_digits_iff :
    (∃ o, operand? s = some o ∧ o.digits = digits) ↔ Text.First (OperandAt s) digits := by
  have parts : OperandAt s = fun i digits =>
      ∃ o, operandAt? (s.drop i) = some o ∧ o.digits = digits :=
    funext fun _ => funext fun _ => propext operandAt_iff
  rw [parts, Text.first_map_iff]
  simp only [operand?, Text.leftmost_eq_some_iff_first]

/-- An operand is read exactly if the statement has one. -/
theorem readOperand_eq_ok_iff : readOperand kind s = .ok n ↔ Reads s n := by
  constructor
  · intro read
    cases operand : operand? s with
    | none => simp only [readOperand, operand, reduceCtorEq] at read
    | some o =>
      by_cases numeral : IsNumeral o.digits
      · rw [readOperand_ok operand numeral, Except.ok.injEq] at read
        have value : numeralValue o.digits = n.toNat := by
          rw [← read, UInt64.toNat_ofNat_of_lt' numeral.2]
        exact ⟨o.digits, operand?_digits_iff.mp ⟨o, operand, rfl⟩, numeral.1, value⟩
      · rw [readOperand_error operand numeral] at read
        cases read
  · intro written
    obtain ⟨digits, first, ascii, value⟩ := written
    obtain ⟨o, operand, rfl⟩ := operand?_digits_iff.mpr first
    have numeral : IsNumeral o.digits := ⟨ascii, value ▸ n.toNat_lt_size⟩
    rw [readOperand_ok operand numeral, value, UInt64.ofNat_toNat]

/-- A statement whose helper has a kind becomes one operation, any other none. -/
theorem operation?_ignore_iff : operation? .ignore b s = .ok (some op) ↔ StandsFor b s op := by
  constructor
  · intro h
    cases bound : (calledHelper? s).bind b.kindOf? with
    | none =>
      rw [operation?_unbound bound] at h
      cases h
    | some kind =>
      simp only [operation?, bound] at h
      split at h
      · next takes =>
        cases operand : readOperand kind s with
        | ok n =>
          simp only [operand, Except.ok.injEq, Option.some.injEq] at h
          exact h ▸ .number bound takes (readOperand_eq_ok_iff.mp operand)
        | error fault =>
          have unread : ∀ n, ¬ Reads s n := by
            intro n read
            rw [readOperand_eq_ok_iff.mpr read] at operand
            cases operand
          simp only [operand, Except.ok.injEq, Option.some.injEq] at h
          exact h ▸ .zero bound takes unread
      · next plain =>
        cases kind with
        | reverse =>
          simp only [Except.ok.injEq, Option.some.injEq] at h
          exact h ▸ .reverse bound
        | slice | swap => exact absurd rfl plain
  · intro h
    cases h with
    | reverse bound => simp only [operation?, bound, Kind.takesOperand, Bool.false_eq_true,
        if_false, Operation.ofKind]
    | number bound takes read =>
      exact operation?_read bound takes (readOperand_eq_ok_iff.mpr read) .ignore
    | @zero kind bound takes unread =>
      cases operand : readOperand kind s with
      | ok n => exact absurd (readOperand_eq_ok_iff.mp operand) (unread n)
      | error fault => exact operation?_ignore_unread bound takes operand

/-- Every statement whose helper has a kind stands for an operation, readable operand or not. -/
theorem exists_standsFor (h : resolves b s = true) : ∃ op, StandsFor b s op := by
  obtain ⟨kind, bound⟩ := Option.isSome_iff_exists.mp h
  by_cases takes : kind.takesOperand = true
  · by_cases read : ∃ n, Reads s n
    · obtain ⟨n, read⟩ := read
      exact ⟨_, .number bound takes read⟩
    · exact ⟨_, .zero bound takes (not_exists.mp read)⟩
  · cases kind with
    | reverse => exact ⟨_, .reverse bound⟩
    | slice | swap => exact absurd rfl takes

/-- Under the permissive policy the program is made of the operations of the resolved statements. -/
theorem sequence_stands (h : sequence .ignore b ss = .ok p) :
    List.Forall₂ (StandsFor b) (ss.filter (resolves b)) p := by
  induction ss generalizing p with
  | nil =>
    obtain rfl : [] = p := Except.ok.inj h
    exact .nil
  | cons s ss ih =>
    obtain ⟨op, rest, accepted, behind, rfl⟩ := sequence_cons_ok.mp h
    by_cases known : resolves b s = true
    · obtain ⟨op', stands⟩ := exists_standsFor known
      rw [operation?_ignore_iff.mpr stands] at accepted
      obtain rfl : some op' = op := Except.ok.inj accepted
      rw [List.filter_cons_of_pos known]
      exact .cons stands (ih behind)
    · have unbound : (calledHelper? s).bind b.kindOf? = none := by simpa [resolves] using known
      rw [operation?_unbound unbound] at accepted
      obtain rfl : none = op := Except.ok.inj accepted
      rw [List.filter_cons_of_neg known]
      exact ih behind

/-- A program has one operation for each resolved statement, in their order: of the kind that is
bound to the called helper, with the number that the statement has or zero. Statements are
sequenced independently of each other, so a list can be cut anywhere; the first fault counts. -/
theorem sequence_resolved (b : Bindings) :
    (∀ ss, ∃ p, sequence .ignore b ss = .ok p ∧ p.length = ss.countP (resolves b) ∧
      List.Forall₂ (StandsFor b) (ss.filter (resolves b)) p) ∧
    ∀ policy xs ys, sequence policy b (xs ++ ys) =
      match sequence policy b xs, sequence policy b ys with
      | .error fault, _ => .error fault
      | .ok _, .error fault => .error fault
      | .ok p, .ok q => .ok (p ++ q) := by
  constructor
  · intro ss
    obtain ⟨p, found⟩ := sequence_ignore b ss
    have stands := sequence_stands found
    refine ⟨p, found, ?_, stands⟩
    rw [List.countP_eq_length_filter, stands.length_eq]
  · intro policy xs ys
    rw [sequence_append]
    cases sequence policy b xs with
    | error fault => rfl
    | ok p => cases sequence policy b ys <;> rfl

end Descramble.Script
