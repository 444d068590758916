import Descramble.Program.Json
import Descramble.Proofs.Json.Member

namespace Descramble

open Json

variable {fuel depth : Nat} {s t r u rest name : Text} {k : Text} {v : Value}
variable {ms : List (Text × Value)} {kind : Kind} {op : Operation}

theorem Kind.ofName?_name (kind : Kind) : Kind.ofName? kind.name = some kind := by
  cases kind <;> rfl

namespace Operation

def fields (op : Operation) : List (Text × Value) :=
  if op.kind.takesOperand then [(op.kind.field, .number (.natural op.operand.toNat))] else []

theorem toValue_eq (op : Operation) :
    op.toValue = .object ((tag, .string op.kind.name) :: op.fields) := by
  cases op <;> rfl

theorem ofMembers_fields (op : Operation) : ofMembers op.kind op.fields = .ok op := by
  cases op with
  | reverse => rfl
  | slice n | swap n =>
    simp [ofMembers, fields, kind, operand, operandOfMembers, operandOfValue, Kind.takesOperand,
      Except.map, ofKind]

/-- No field takes the place of the name. -/
theorem fields_ne_tag (op : Operation) : ∀ m ∈ op.fields, m.1 ≠ tag := by
  cases op <;> simp [fields, kind, Kind.takesOperand, Kind.field, tag]

theorem readKind_written (h : Written depth (.string kind.name) t)
    (front : skipSpace s = t ++ rest) : readKind s = .ok (kind, rest) := by
  rw [readKind, choice]
  simp only [stringOf_written _ h front, Kind.ofName?_name]

theorem readTagged_end (first : Bool) (front : skipSpace s = '}' :: rest) :
    readTagged (fuel + 1) depth first (some kind) s = .ok ((kind, []), '}' :: rest) := by
  rw [readTagged]
  simp only [nextKey_end first front, front]

theorem readTagged_tag (first : Bool) (gap : Space) {result : Read (Kind × List (Text × Value))}
    (next : nextKey first s = .ok (some (name ++ '"' :: (gap.text ++ ':' :: r))))
    (key : Spelled tag name) (head : readKind r = .ok (kind, u))
    (tail : readTagged fuel depth false (some kind) u = result) :
    readTagged (fuel + 1) depth first none s = result := by
  rw [readTagged]
  simp [next, string_spelled key, colon_append, Except.bind, head, tail]

theorem readTagged_field (first : Bool) (gap : Space) {named : Option Kind}
    (next : nextKey first s = .ok (some (name ++ '"' :: (gap.text ++ ':' :: r))))
    (key : Spelled k name) (other : k ≠ tag) (head : value fuel depth r = .ok (v, u))
    (tail : readTagged fuel depth false named u = .ok ((kind, ms), rest)) :
    readTagged (fuel + 1) depth first named s = .ok ((kind, (k, v) :: ms), rest) := by
  rw [readTagged.eq_def]
  simp [next, string_spelled key, colon_append, Except.bind, other, head, tail, Except.map]

theorem readTagged_field_error (first : Bool) (gap : Space) (named : Option Kind) {halt : Halt}
    (next : nextKey first s = .ok (some (name ++ '"' :: (gap.text ++ ':' :: r))))
    (key : Spelled k name) (other : k ≠ tag) (head : value fuel depth r = .error halt) :
    readTagged (fuel + 1) depth first named s = .error halt := by
  rw [readTagged.eq_def]
  simp [next, string_spelled key, colon_append, Except.bind, other, head]

/-- Members behind the name are collected in their order. -/
theorem readTagged_members (kind : Kind) (h : WrittenMembers depth ms u)
    (others : ∀ m ∈ ms, m.1 ≠ tag) (enough : u.length ≤ fuel) (rest : Text) :
    readTagged fuel depth false (some kind) (u ++ rest) = .ok ((kind, ms), '}' :: rest) := by
  induction ms generalizing u fuel with
  | nil =>
    have step := writtenMembers_length h
    obtain ⟨fuel, rfl⟩ := Nat.exists_eq_add_one.mpr (by omega : 0 < fuel)
    cases h with
    | nil gap =>
      rw [List.append_assoc]
      exact readTagged_end false (gap.skipSpace_append rfl rest)
  | cons m ms ih =>
    have step := writtenMembers_length h
    obtain ⟨fuel, rfl⟩ := Nat.exists_eq_add_one.mpr (by omega : 0 < fuel)
    cases h with
    | @cons _ name _ _ t _ u gap gap' before behind key first more =>
      simp only [List.length_cons, List.length_append, memberText] at enough
      rw [List.append_assoc, List.cons_append, List.append_assoc, List.append_assoc]
      have next := nextKey_member_next gap gap' name before behind t (u ++ rest)
      have enough' : t.length ≤ fuel ∧ u.length ≤ fuel := by omega
      have head := value_written first enough'.1 (behind.skipSpace_written first _)
        (writtenMembers_ends more rest)
      have tail := ih more (fun w hw => others w (List.mem_cons_of_mem _ hw)) enough'.2
      exact readTagged_field false before next key (others _ List.mem_cons_self) head tail

/-- Every text that writes the value of an operation is read as that operation. -/
theorem read_written (h : Written (depth + 1) op.toValue t) (enough : t.length ≤ fuel)
    (front : skipSpace s = t ++ rest) : Operation.read fuel depth s = .ok (op, rest) := by
  rw [toValue_eq] at h
  cases h with
  | @object _ name _ _ t _ u gap before behind key first more =>
    simp only [List.length_cons, List.length_append, memberText] at enough
    obtain ⟨fuel, rfl⟩ := Nat.exists_eq_add_one.mpr (by omega : 0 < fuel)
    rw [List.cons_append, List.append_assoc, List.append_assoc] at front
    have next := nextKey_member_first gap name before behind t (u ++ rest)
    have head := readKind_written first (behind.skipSpace_written first (u ++ rest))
    have enough' : u.length ≤ fuel := by omega
    have tail := readTagged_members op.kind more op.fields_ne_tag enough' rest
    have inside := readTagged_tag true before next key head tail
    rw [Operation.read]
    simp only [front, inside]
    change conclude rest (ofMembers op.kind op.fields) = .ok (op, rest)
    rw [ofMembers_fields]
    rfl

end Operation

namespace Program

variable {p : Program}

theorem readItems_nil (first : Bool) (front : skipSpace s = ']' :: rest) :
    readItems (fuel + 1) first s = .ok ([], ']' :: rest) := by
  rw [readItems]
  simp only [nextItem_end first front, front]

theorem readItems_cons (first : Bool) (next : nextItem first s = .ok (some r))
    (head : Operation.read fuel (maxDepth - 2) r = .ok (op, u))
    (tail : readItems fuel false u = .ok (p, rest)) :
    readItems (fuel + 1) first s = .ok (op :: p, rest) := by
  rw [readItems]
  simp only [next, head, tail]
  rfl

theorem readItems_written (h : WrittenItems (maxDepth - 1) (p.map Operation.toValue) u)
    (enough : u.length ≤ fuel) (rest : Text) :
    readItems fuel false (u ++ rest) = .ok (p, ']' :: rest) := by
  induction p generalizing u fuel with
  | nil =>
    have step := writtenItems_length h
    obtain ⟨fuel, rfl⟩ := Nat.exists_eq_add_one.mpr (by omega : 0 < fuel)
    cases h with
    | nil gap =>
      rw [List.append_assoc]
      exact readItems_nil false (gap.skipSpace_append rfl rest)
  | cons op p ih =>
    have step := writtenItems_length h
    obtain ⟨fuel, rfl⟩ := Nat.exists_eq_add_one.mpr (by omega : 0 < fuel)
    cases h with
    | @cons _ _ t _ u gap gap' first more =>
      simp only [List.length_cons, List.length_append] at enough
      simp only [List.cons_append, List.append_assoc]
      have enough' : t.length ≤ fuel ∧ u.length ≤ fuel := by omega
      have head := Operation.read_written first enough'.1 (skipSpace_written first (u ++ rest))
      have tail := ih more enough'.2
      exact readItems_cons false (nextItem_written_next gap gap' first _) head tail

theorem read_list (front : skipSpace s = '[' :: r)
    (inside : readItems (steps r) true r = .ok (p, ']' :: rest)) : read s = .ok (p, rest) := by
  rw [read]
  simp only [front, inside]
  rfl

/-- Every text that writes the value of a program is read as that program. -/
theorem ofJson_written (h : Written maxDepth p.toValue t) : ofJson t = .ok p := by
  have front := skipSpace_written h []
  have h : Written (maxDepth - 1 + 1) p.toValue t := h
  suffices whole : read t = .ok (p, []) from document_eq_ok whole rfl
  rw [List.append_nil] at front
  cases p with
  | nil =>
    cases h with
    | noItems gap => exact read_list front (readItems_nil true (gap.skipSpace_append rfl []))
  | cons op p =>
    cases h with
    | @list _ _ t _ u gap first more =>
      have enough : t.length ≤ 3 * (gap.text ++ (t ++ u)).length + 2 ∧
          u.length ≤ 3 * (gap.text ++ (t ++ u)).length + 2 := by
        simp only [List.length_append]
        omega
      have head := Operation.read_written first enough.1 (skipSpace_written first u)
      have tail := readItems_written more enough.2 []
      rw [List.append_nil] at tail
      exact read_list front (readItems_cons true (nextItem_written_first gap first u) head tail)

end Program
end Descramble
