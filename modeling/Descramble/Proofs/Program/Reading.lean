import Descramble.Proofs.Json.Value
import Descramble.Proofs.Program.Json
import Descramble.Proofs.Program.Unbounded

namespace Descramble

open Json

inductive Operation.Collected : Unbounded → Kind × List (Text × Value) → Prop
  | bare : Collected .reverse (.reverse, [])
  | operand (number : Unbounded.operand? u = some n) (stored : Stored n v) :
    Collected u (u.kind, [(u.kind.field, v)])

variable {fuel depth n : Nat} {s t r rest : Text} {kind : Kind} {u : Unbounded}
variable {us : List Unbounded}

namespace Operation

theorem operandOfValue_stored (h : Stored n v) :
    (∃ m : UInt64, m.toNat = n ∧ operandOfValue v = .ok m) ∨
      UInt64.size ≤ n ∧ ∃ cause, operandOfValue v = .error cause ∧ cause.Excess := by
  cases h with
  | natural small => exact .inl ⟨.ofNat n, UInt64.toNat_ofNat_of_lt' small, rfl⟩
  | float large x => exact .inr ⟨large, _, rfl, .float _⟩

/-- The members give the operation, unless its operand is too large. -/
theorem conclude_collected (h : Collected u p) (rest : Text) :
    Outcome (fun op => op.unbounded = u) u.Oversized rest (conclude rest (ofMembers p.1 p.2)) := by
  cases h with
  | bare => exact .read _ rfl
  | @operand _ n v number stored =>
    have takes := Unbounded.takesOperand number
    obtain ⟨m, rfl, read⟩ | ⟨large, cause, failed, excess⟩ := operandOfValue_stored stored
    · have whole : ofMembers u.kind [(u.kind.field, v)] = .ok (ofKind u.kind m) := by
        simp [ofMembers, takes, operandOfMembers, read, Except.map]
      rw [whole]
      exact .read _ (unbounded_ofKind number)
    · have whole : ofMembers u.kind [(u.kind.field, v)] = .error cause := by
        simp [ofMembers, takes, operandOfMembers, failed, Except.map]
      rw [whole]
      exact .refused ⟨n, number, large⟩ _ excess

theorem readTagged_kind (first : Bool) (name : KindMember kind t)
    (lead : nextKey first s = nextKey true (t ++ r)) :
    readTagged (fuel + 1) depth first none s = readTagged fuel depth false (some kind) r := by
  cases name with
  | @member k w before behind key word =>
    have next := lead.trans (nextKey_member_first .nothing k before behind w r)
    exact readTagged_tag first before next key
      (readKind_written word (behind.skipSpace_written word r)) rfl

theorem field_ne_tag (kind : Kind) : kind.field ≠ tag := by
  cases kind <;> decide

/-- The operand is collected, or it ends the reading. -/
theorem readTagged_operand (first : Bool) {named : Option Kind} (number : u.operand? = some n)
    (operand : OperandMember u.kind n t) (lead : nextKey first s = nextKey true (t ++ r))
    (stop : EndsNumeral r)
    (tail : readTagged (fuel + 1) depth false named r = .ok ((u.kind, []), rest)) :
    Outcome (Collected u) u.Oversized rest (readTagged (fuel + 2) depth first named s) := by
  cases operand with
  | @member k w before behind key numeral =>
    subst numeral
    have next := lead.trans (nextKey_member_first .nothing k before behind (Text.decimal n) r)
    have outcome : Outcome _ _ _ (value (fuel + 1) depth _) :=
      value_decimal (behind.skipSpace_decimal n r) stop
    generalize read : value _ _ _ = result at outcome
    cases outcome with
    | read v stored =>
      rw [readTagged_field first before next key (field_ne_tag u.kind) read tail]
      exact .read _ (.operand number stored)
    | refused large halt excess =>
      rw [readTagged_field_error first before named next key (field_ne_tag u.kind) read]
      exact .refused ⟨n, number, large⟩ halt excess

/-- The kind and the operand are collected in either order, or the operand ends the reading. -/
theorem readTagged_written (h : Unbounded.Written u t) (rest : Text) :
    ∃ r, t ++ rest = '{' :: r ∧ Outcome (Collected u) u.Oversized ('}' :: rest)
      (readTagged (fuel + 3) depth true none r) := by
  have ends : ∀ (gap : Space) {c : Char} (r : Text),
      c.isDigit = false ∧ c ≠ '.' ∧ isExponentMark c = false → EndsNumeral (gap.text ++ c :: r) :=
    fun gap _ r mark => gap.endsNumeral (endsNumeral_cons mark r)
  have close : ∀ (fuel : Nat) (kind : Kind) (gap : Space),
      readTagged (fuel + 1) depth false (some kind) (gap.text ++ '}' :: rest) =
        .ok ((kind, []), '}' :: rest) :=
    fun fuel kind gap => readTagged_end false (gap.skipSpace_append rfl rest)
  cases h with
  | @bare t gap gap' name =>
    refine ⟨gap.text ++ (t ++ (gap'.text ++ '}' :: rest)), by simp, ?_⟩
    rw [readTagged_kind true name (name.nextKey_first gap _), close]
    exact .read _ .bare
  | @kindFirst _ n t m number gap between between' gap' name operand =>
    refine ⟨gap.text ++ (t ++ (between.text ++ ',' :: (between'.text ++ (m ++ (gap'.text ++
      '}' :: rest))))), by simp, ?_⟩
    rw [readTagged_kind true name (name.nextKey_first gap _)]
    exact readTagged_operand false number operand (operand.nextKey_next between between' _)
      (ends gap' rest (by decide)) (close fuel u.kind gap')
  | @kindLast _ n t m number gap between between' gap' name operand =>
    refine ⟨gap.text ++ (m ++ (between.text ++ ',' :: (between'.text ++ (t ++ (gap'.text ++
      '}' :: rest))))), by simp, ?_⟩
    -- Without the kind the operand is kept as a value; it is judged once the object is closed.
    refine readTagged_operand true number operand (operand.nextKey_first gap _)
      (ends between _ (by decide)) ?_
    rw [readTagged_kind false name (name.nextKey_next between between' _), close]

/-- An operation is read as it is written, unless its operand is too large. -/
theorem read_unbounded (h : Unbounded.Written u t) (front : skipSpace s = t ++ rest) :
    Outcome (fun op => op.unbounded = u) u.Oversized rest (Operation.read (fuel + 3) depth s) := by
  obtain ⟨r, opens, collected⟩ : ∃ r, t ++ rest = '{' :: r ∧ Outcome (Collected u) u.Oversized
    ('}' :: rest) (readTagged (fuel + 3) depth true none r) := readTagged_written h rest
  rw [Operation.read]
  simp only [front, opens]
  generalize readTagged (fuel + 3) depth true none r = result at collected ⊢
  cases collected with
  | read p collected => exact conclude_collected collected rest
  | refused large halt excess => exact .refused large halt.settleObject (by simpa using excess)

end Operation

/-- A list of operations is read exactly up to `rest`, or one of the operands is too large. -/
abbrev ListOutcome (us : List Unbounded) (rest : Text) (result : Read Program) : Prop :=
  Outcome (fun p => p.map Operation.unbounded = us) (∃ u ∈ us, u.Oversized) rest result

namespace Program

/-- One operation more is read in front of a list. -/
theorem readItems_outcome (first : Bool) (next : nextItem first s = .ok (some r))
    (head : Outcome (fun op => op.unbounded = u) u.Oversized v
      (Operation.read fuel (maxDepth - 2) r))
    (tail : ListOutcome us rest (readItems fuel false v)) :
    ListOutcome (u :: us) rest (readItems (fuel + 1) first s) := by
  rw [readItems]
  simp only [next]
  generalize Operation.read fuel (maxDepth - 2) r = result at head ⊢
  cases head with
  | refused large halt excess => exact .refused ⟨u, List.mem_cons_self, large⟩ halt excess
  | read op same =>
    dsimp only
    generalize readItems fuel false v = result at tail ⊢
    cases tail with
    | refused large halt excess =>
      obtain ⟨w, hw, large⟩ := large
      exact .refused ⟨w, List.mem_cons_of_mem u hw, large⟩ halt excess
    | read p same' => exact .read (op :: p) (by rw [List.map_cons, same, same'])

/-- The operations are read up to the bracket. Each takes one step of the list, and three more are
enough for its members. -/
theorem readItems_behind (h : WrittenBehind us v) (enough : us.length + 3 < fuel) (rest : Text) :
    ListOutcome us (']' :: rest) (readItems fuel false (v ++ rest)) := by
  induction h generalizing fuel with
  | nil gap =>
    obtain ⟨fuel, rfl⟩ := Nat.exists_eq_add_one.mpr (by omega : 0 < fuel)
    rw [List.append_assoc, List.singleton_append,
      readItems_nil false (gap.skipSpace_append rfl rest)]
    exact .read [] rfl
  | @cons u t us v gap gap' first more ih =>
    simp only [List.length_cons] at enough
    obtain ⟨fuel, rfl⟩ := Nat.exists_eq_add_of_le' (by omega : 4 ≤ fuel)
    simp only [List.append_assoc, List.cons_append]
    exact readItems_outcome false (first.nextItem_next gap gap' (v ++ rest))
      (Operation.read_unbounded first (first.skipSpace_append (v ++ rest)))
      (ih (by omega : us.length + 3 < fuel + 3))

theorem read_outcome (front : skipSpace s = '[' :: r)
    (inside : ListOutcome us (']' :: rest) (readItems (steps r) true r)) :
    ListOutcome us rest (Program.read s) := by
  rw [Program.read]
  simp only [front]
  generalize readItems (steps r) true r = result at inside ⊢
  cases inside with
  | read p same => exact .read p same
  | refused large halt excess => exact .refused large halt.settleList (by simpa using excess)

/-- A list is read up to the space behind it, or one of the operands is too large. -/
theorem read_writtenList (h : WrittenList us t) :
    ∃ behind : Space, ListOutcome us behind.text (Program.read t) := by
  cases h with
  | nil before gap behind =>
    refine ⟨behind, read_outcome (before.skipSpace_append rfl _) ?_⟩
    rw [steps, readItems_nil true (gap.skipSpace_append rfl behind.text)]
    exact .read [] rfl
  | @cons u t us v before gap behind first more =>
    refine ⟨behind, read_outcome (before.skipSpace_append rfl _) ?_⟩
    have size := writtenBehind_length more
    obtain ⟨fuel, enough, same⟩ : ∃ fuel, us.length + 3 < fuel + 3 ∧
        steps (gap.text ++ (t ++ (v ++ behind.text))) = fuel + 4 := by
      refine ⟨3 * (gap.text ++ (t ++ (v ++ behind.text))).length - 1, ?_, ?_⟩ <;>
        simp only [steps, List.length_append] <;> omega
    rw [same]
    exact readItems_outcome true (first.nextItem_first gap (v ++ behind.text))
      (Operation.read_unbounded first (first.skipSpace_append (v ++ behind.text)))
      (readItems_behind more enough behind.text)

/-- A document gives every operand as it is written, or is refused for one that is too large. -/
theorem ofJson_writtenList (h : WrittenList us t) :
    (∃ p, ofJson t = .ok p ∧ p.map Operation.unbounded = us) ∨
      (∃ u ∈ us, u.Oversized) ∧ ∃ fault, ofJson t = .error fault ∧ fault.cause.Excess := by
  obtain ⟨behind, outcome⟩ := read_writtenList h
  rw [ofJson, document]
  generalize Program.read t = result at outcome ⊢
  cases outcome with
  | read p same => exact .inl ⟨p, by simp only [behind.skipSpace_text], same⟩
  | refused large halt excess => exact .inr ⟨large, .ofHalt t halt, rfl, excess⟩

theorem not_oversized (p : Program) : ¬ ∃ u ∈ p.map Operation.unbounded, u.Oversized := by
  simp [Operation.not_oversized]

theorem map_unbounded_inj {p q : Program} :
    p.map Operation.unbounded = q.map Operation.unbounded ↔ p = q :=
  List.map_inj_right fun _ _ => Operation.unbounded_injective

theorem ofJson_eq_ok_iff (h : WrittenList us t) (p : Program) :
    ofJson t = .ok p ↔ p.map Operation.unbounded = us := by
  obtain ⟨q, read, rfl⟩ | ⟨large, fault, failed, -⟩ := ofJson_writtenList h
  · rw [read, Except.ok.injEq, map_unbounded_inj, eq_comm]
  · rw [failed]
    refine iff_of_false (by simp) ?_
    rintro rfl
    exact not_oversized p large

theorem exists_ofJson_iff (h : WrittenList us t) :
    (∃ p, ofJson t = .ok p) ↔ ¬ ∃ u ∈ us, u.Oversized := by
  obtain ⟨p, read, rfl⟩ | ⟨large, fault, failed, -⟩ := ofJson_writtenList h
  · exact iff_of_true ⟨p, read⟩ (not_oversized p)
  · rw [failed]
    exact iff_of_false (by simp) (not_not_intro large)

theorem ofJson_oversized (h : WrittenList us t) (large : ∃ u ∈ us, u.Oversized) :
    ∃ fault, ofJson t = .error fault ∧ fault.cause.Excess := by
  obtain ⟨p, -, rfl⟩ | ⟨-, refused⟩ := ofJson_writtenList h
  · exact absurd large (not_oversized p)
  · exact refused

/-- A list of operations is read if and only if each operand fits into 64 bits, and then exactly;
otherwise the document is refused for the size of a number. The compact text of a program gives
the program back. -/
theorem ofJson_unbounded :
    (∀ us t, WrittenList us t →
      ((∃ p, ofJson t = .ok p) ↔ ∀ u ∈ us, ∀ n, u.operand? = some n → n < UInt64.size) ∧
      (∀ p, ofJson t = .ok p ↔ p.map Operation.unbounded = us) ∧
      ((∃ u ∈ us, u.Oversized) → ∃ fault, ofJson t = .error fault ∧ fault.cause.Excess)) ∧
    ∀ p : Program, ofJson (compact p.toValue) = .ok p := by
  refine ⟨fun us t h => ⟨?_, ofJson_eq_ok_iff h, ofJson_oversized h⟩, fun p => ?_⟩
  · rw [exists_ofJson_iff h]
    simp [Unbounded.Oversized]
  · exact (ofJson_eq_ok_iff (writtenList_compact p) p).mpr rfl

theorem ofJson_unbounded_edge :
    ofJson "[\x7b\"index\":18446744073709551615, \"op\":\"swap\"\x7d]".toList =
        .ok [.swap 18446744073709551615] ∧
      ∃ fault, ofJson "[\x7b\"index\":18446744073709551616, \"op\":\"swap\"\x7d]".toList =
        .error fault ∧ fault.cause.Excess := by
  have written : ∀ n, WrittenList [.swap n] _ := fun n =>
    .cons .nothing .nothing .nothing (.kindLast rfl .nothing .nothing .blank .nothing
      (.compact (written_stringText Kind.swap.name)) (.compact rfl)) (.nil .nothing)
  constructor
  · have fits := written 18446744073709551615
    exact ((ofJson_unbounded.1 _ _ fits).2.1 [.swap 18446744073709551615]).mpr rfl
  · have large : (Unbounded.swap 18446744073709551616).Oversized := ⟨_, rfl, by decide⟩
    have exceeds := written 18446744073709551616
    exact (ofJson_unbounded.1 _ _ exceeds).2.2 ⟨_, List.mem_cons_self, large⟩

end Program
end Descramble
