import Descramble.Program.Json
import Descramble.Proofs.Json.Member

namespace Descramble

open Json

/-- An operation with an operand of any size. -/
inductive Unbounded
  | reverse
  | slice (count : Nat)
  | swap (index : Nat)

namespace Unbounded

def kind : Unbounded → Kind
  | reverse => .reverse
  | slice _ => .slice
  | swap _ => .swap

def operand? : Unbounded → Option Nat
  | reverse => none
  | slice n | swap n => some n

def Oversized (u : Unbounded) : Prop := ∃ n, u.operand? = some n ∧ UInt64.size ≤ n

theorem takesOperand {u : Unbounded} (number : u.operand? = some n) :
    u.kind.takesOperand = true := by
  cases u with
  | reverse => cases number
  | slice n | swap n => rfl

end Unbounded

namespace Operation

def unbounded : Operation → Unbounded
  | reverse => .reverse
  | slice n => .slice n.toNat
  | swap n => .swap n.toNat

theorem unbounded_injective {op op' : Operation} (same : op.unbounded = op'.unbounded) :
    op = op' := by
  cases op <;> cases op' <;> simp_all [unbounded, UInt64.toNat_inj]

theorem not_oversized (op : Operation) : ¬ op.unbounded.Oversized := by
  intro oversized
  obtain ⟨n, number, large⟩ := oversized
  cases op with
  | reverse => cases number
  | slice m | swap m =>
    obtain rfl := Option.some.inj number
    exact Nat.not_lt.mpr large m.toNat_lt_size

theorem unbounded_ofKind {u : Unbounded} {m : UInt64} (number : u.operand? = some m.toNat) :
    (ofKind u.kind m).unbounded = u := by
  cases u with
  | reverse => cases number
  | slice n | swap n =>
    obtain rfl : n = m.toNat := Option.some.inj number
    rfl

end Operation

abbrev KindMember (kind : Kind) : Text → Prop :=
  WrittenMember Operation.tag (Json.Written 0 (.string kind.name))

abbrev OperandMember (kind : Kind) (n : Nat) : Text → Prop :=
  WrittenMember kind.field (Text.decimal n = ·)

/-- The ways to write an operation: its members may stand in either order. -/
inductive Unbounded.Written : Unbounded → Text → Prop
  | bare (gap gap' : Space) (name : KindMember .reverse t) :
    Written .reverse ('{' :: (gap.text ++ (t ++ (gap'.text ++ ['}']))))
  | kindFirst (number : operand? u = some n) (gap between between' gap' : Space)
    (name : KindMember u.kind t) (operand : OperandMember u.kind n m) :
    Written u ('{' :: (gap.text ++ (t ++ (between.text ++ ',' :: (between'.text ++
      (m ++ (gap'.text ++ ['}'])))))))
  | kindLast (number : operand? u = some n) (gap between between' gap' : Space)
    (name : KindMember u.kind t) (operand : OperandMember u.kind n m) :
    Written u ('{' :: (gap.text ++ (m ++ (between.text ++ ',' :: (between'.text ++
      (t ++ (gap'.text ++ ['}'])))))))

inductive WrittenBehind : List Unbounded → Text → Prop
  | nil (gap : Space) : WrittenBehind [] (gap.text ++ [']'])
  | cons (gap gap' : Space) (first : Unbounded.Written u t) (rest : WrittenBehind us v) :
    WrittenBehind (u :: us) (gap.text ++ ',' :: (gap'.text ++ (t ++ v)))

inductive WrittenList : List Unbounded → Text → Prop
  | nil (before gap behind : Space) :
    WrittenList [] (before.text ++ '[' :: (gap.text ++ ']' :: behind.text))
  | cons (before gap behind : Space) (first : Unbounded.Written u t) (rest : WrittenBehind us v) :
    WrittenList (u :: us) (before.text ++ '[' :: (gap.text ++ (t ++ (v ++ behind.text))))

variable {n : Nat} {t v : Text} {u : Unbounded} {us : List Unbounded}

namespace Unbounded.Written

theorem exists_cons (h : Written u t) : ∃ r, t = '{' :: r := by
  cases h with
  | _ => exact ⟨_, rfl⟩

theorem skipSpace_append (h : Written u t) (s : Text) : skipSpace (t ++ s) = t ++ s := by
  obtain ⟨r, rfl⟩ := h.exists_cons
  exact List.dropWhile_cons_of_neg (by decide)

theorem nextItem_first (h : Written u t) (gap : Space) (s : Text) :
    nextItem true (gap.text ++ (t ++ s)) = .ok (some (t ++ s)) := by
  obtain ⟨r, rfl⟩ := h.exists_cons
  exact Json.nextItem_first (by decide) (gap.skipSpace_append rfl _)

theorem nextItem_next (h : Written u t) (gap gap' : Space) (s : Text) :
    nextItem false (gap.text ++ ',' :: (gap'.text ++ (t ++ s))) = .ok (some (t ++ s)) := by
  obtain ⟨r, rfl⟩ := h.exists_cons
  exact Json.nextItem_next (by decide) (gap.skipSpace_append rfl _) (gap'.skipSpace_append rfl _)

end Unbounded.Written

theorem writtenBehind_length (h : WrittenBehind us v) : us.length < v.length := by
  induction h with
  | nil gap => simp
  | cons gap gap' first rest ih =>
    simp only [List.length_append, List.length_cons]
    omega

theorem Unbounded.written_compact (number : u.operand? = some n) :
    u.Written (compact (.object [(Operation.tag, .string u.kind.name),
      (u.kind.field, .number (.natural n))])) := by
  have whole := Written.kindFirst number .nothing .nothing .nothing .nothing
    (.compact (written_stringText u.kind.name)) (.compact rfl)
  simpa [compact, compactMembers, numberText, Text.Run.nothing] using whole

theorem Operation.written_compact (op : Operation) :
    op.unbounded.Written (compact op.toValue) := by
  cases op with
  | reverse =>
    have whole := Unbounded.Written.bare .nothing .nothing
      (.compact (written_stringText Kind.reverse.name))
    simpa [unbounded, toValue, compact, compactMembers, Text.Run.nothing] using whole
  | slice n => exact Unbounded.written_compact (u := .slice n.toNat) rfl
  | swap n => exact Unbounded.written_compact (u := .swap n.toNat) rfl

namespace Program

theorem writtenBehind_compact (p : Program) :
    WrittenBehind (p.map Operation.unbounded)
      (compactItems (p.map Operation.toValue) ++ [']']) := by
  induction p with
  | nil => exact .nil .nothing
  | cons op p ih =>
    simpa [compactItems, Text.Run.nothing] using
      WrittenBehind.cons .nothing .nothing op.written_compact ih

/-- The compact text of a program is one way to write it. -/
theorem writtenList_compact (p : Program) :
    WrittenList (p.map Operation.unbounded) (compact p.toValue) := by
  cases p with
  | nil => exact .nil .nothing .nothing .nothing
  | cons op p =>
    simpa [toValue, compact, Text.Run.nothing] using
      WrittenList.cons .nothing .nothing .nothing op.written_compact (writtenBehind_compact p)

example : compact (toValue [.slice 2, .reverse]) =
    "[\x7b\"op\":\"slice\",\"count\":2\x7d,\x7b\"op\":\"reverse\"\x7d]".toList := by decide

end Program
end Descramble
