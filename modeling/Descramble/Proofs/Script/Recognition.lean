import Descramble.Proofs.Script.Classification
import Descramble.Proofs.Script.Exclusion
import Descramble.Proofs.Script.Layout
import Descramble.Proofs.Script.Operand

namespace Descramble.Script

open Text (Gap Name)

namespace Layout

theorem isSlice_slice (l : Layout) : (l.member .slice).helper.isSlice = true := by
  have unclosed : ')' ∉ '0' :: ',' :: l.amount.text := by
    simp [l.amount.not_mem (c := ')') rfl]
  let d : SelectionForm :=
    ⟨.nothing, [], .inl rfl, .nothing, .nothing, ['s', 'p', 'l', 'i', 'c', 'e'], by decide,
      .nothing,
      '0' :: ',' :: l.amount.text, unclosed, [')'], by simp⟩
  have written : l.work .slice = d.text l.target.text := by
    simp [work, SelectionForm.text, SelectionForm.call, d, Text.Run.nothing]
  have whole : Text.Separated (!Text.isWordChar ·) l.amount.text d.arguments :=
    ⟨['0', ','], [], by simp [d], by simp [show Text.isWordChar ',' = false from rfl], by simp⟩
  simp only [member, Member.helper, parameters, List.map_cons, List.map_nil, written]
  exact d.isSlice_text l.target l.amount (fun _ _ => rfl) whole

theorem isSwap_swap (l : Layout) : (l.member .swap).helper.isSwap = true := by
  have captured : capture? l.target.text (l.work .swap) = some ("[0]".toList ++ l.exchange) := by
    have declaration := capture?_declaration l.target l.temporary (c := '[') rfl
      ('0' :: ']' :: l.exchange)
    simpa [work, firstElement] using declaration
  have inside : Inside ['[', '%', '.', ']', '=', ';'] ("[0]".toList ++ l.exchange) := by
    simp +decide
  have first : ['[', '0', ']'].isPrefixOf? ("[0]".toList ++ l.exchange) = some l.exchange :=
    Text.isPrefixOf?_append _ _
  have reassigned := Text.hasPart_append [';'] (l.target.text ++ ['[', '0', ']', '='])
    (l.otherElement ++ ';' :: (l.otherElement ++ '=' :: l.temporary.text))
  simp only [Helper.isSwap, member, Member.helper, parameters, List.map_cons, List.map_nil,
    captured,
    inside.filter_blank rfl, first]
  simpa [exchange, firstElement] using reassigned

/-- A swap has no dot where a selection needs one. -/
theorem isSlice_swap (l : Layout) : (l.member .swap).helper.isSlice = false := by
  cases slice : (l.member .swap).helper.isSlice with
  | false => rfl
  | true =>
    have other := Helper.not_isSwap_of_isSlice slice
    rw [l.isSwap_swap] at other
    contradiction

/-- Each helper is recognised as what it is, by the first rule of the table that accepts it. -/
theorem find?_accepts (l : Layout) (k : Kind) :
    (Rule.standard.find? fun rule => rule.accepts (l.member k).helper).map Rule.kind = some k := by
  cases k with
  | reverse => rfl
  | slice =>
    have reverse : (l.member .slice).helper.isReverse = false := rfl
    simp [Rule.standard, Rule.ofKind, reverse, l.isSlice_slice]
  | swap =>
    have reverse : (l.member .swap).helper.isReverse = false := rfl
    simp [Rule.standard, Rule.ofKind, reverse, l.isSlice_swap, l.isSwap_swap]

theorem nodup_order (l : Layout) : l.order.Nodup := l.complete.nodup_iff.mpr (by decide)

theorem mem_order (l : Layout) (k : Kind) : k ∈ l.order :=
  l.complete.mem_iff.mpr (by cases k <;> decide)

/-- The helpers have different names, so that each name has one member. -/
theorem filter_members (l : Layout) (k : Kind) :
    ((l.order.map l.member).filter fun m => m.name.text = (l.helper k).text) = [l.member k] := by
  have same : ∀ j, (l.member j).name.text = (l.helper k).text ↔ j = k :=
    fun j => ⟨l.distinct j k, fun h => h ▸ rfl⟩
  have once : l.order.filter (fun j => j = k) = [k] := by
    rw [List.filter_eq, List.count_eq_one_of_mem l.nodup_order (l.mem_order k)]
    rfl
  simp only [List.filter_map, Function.comp_def, same, once, List.map_cons, List.map_nil]

theorem helpers_text (l : Layout) (is : List Instruction) (k : Kind) :
    helpers (l.helper k).text (l.text is) = [(l.member k).helper] := by
  have noColon : ':' ∉ l.entryText is :=
    (l.inside_entryText is (List.Subset.refl _)).not_mem rfl (by simp)
  rw [text, helpers_objectText _ _ _ noColon, filter_members]
  rfl

theorem helperKind?_text (l : Layout) (is : List Instruction) (k : Kind) :
    helperKind? Rule.standard (l.text is) (l.helper k).text = some k := by
  simp only [helperKind?, helpers_text, List.any_cons, List.any_nil, Bool.or_false, l.find?_accepts]

theorem calledHelper?_call (l : Layout) (i : Instruction) :
    calledHelper? (l.call i) = some (l.helper i.operation.kind).text := by
  have here : callAt? (l.call i) = some ⟨(l.helper i.operation.kind).text,
      l.argument.text ++ ',' :: (i.numeral ++ [')'])⟩ := by
    simp only [callAt?, call, l.object.word?_append (c := '.') rfl, Text.char?, ↓reduceIte,
      Option.bind_eq_bind, Option.bind_some,
      (l.helper i.operation.kind).word?_append (c := '(') rfl,
      Option.pure_def]
  rw [calledHelper?, call?, Text.leftmost_of_find here]
  rfl

/-- Every helper that is called is bound to its kind. -/
theorem kindOf?_helper (l : Layout) (script : Text) {i : Instruction} {is : List Instruction}
    (known : ∀ k, helperKind? Rule.standard script (l.helper k).text = some k)
    (hi : i ∈ is) : (classify Rule.standard script (is.map l.call)).kindOf?
      (l.helper i.operation.kind).text = some i.operation.kind := by
  have calls : called (is.map l.call) = is.map fun i => (l.helper i.operation.kind).text := by
    simp [called, List.filterMap_map, calledHelper?_call]
  rw [kindOf?_classify]
  have found :
      (firstOfKind? Rule.standard script (is.map l.call) i.operation.kind).isSome = true := by
    rw [firstOfKind?, calls, List.find?_isSome]
    exact ⟨_, List.mem_map.mpr ⟨i, hi, rfl⟩, by simp [known]⟩
  obtain ⟨name, hn⟩ := Option.isSome_iff_exists.mp found
  obtain ⟨hm, hk⟩ := firstOfKind?_eq_some hn
  rw [calls] at hm
  obtain ⟨j, -, rfl⟩ := List.mem_map.mp hm
  have same : j.operation.kind = i.operation.kind := by simpa [known] using hk
  rw [hn, same]

theorem operand?_call (l : Layout) (i : Instruction) (nonempty : i.numeral ≠ []) :
    ∃ o, operand? (l.call i) = some o ∧ o.digits = i.numeral := by
  have digits : i.numeral.all Text.isDecimalDigit = true :=
    List.all_eq_true.mpr fun c hc => Text.isDecimalDigit_of_isDigit (i.numeral_isDigit c hc)
  let c : NumberedCall := ⟨l.object, l.helper i.operation.kind,
    ⟨.nothing, l.argument, .nothing, .nothing, i.numeral, .nothing, nonempty, digits⟩⟩
  have whole : l.call i = c.text := by
    simp [call, c, NumberedCall.text, OperandForm.inside, Text.Run.nothing]
  exact ⟨_, whole ▸ c.operand?_text, rfl⟩

theorem ofKind_kind {op : Operation} (h : op.kind.takesOperand = false) (n : UInt64) :
    Operation.ofKind op.kind n = op := by
  cases op with
  | reverse => rfl
  | slice _ | swap _ => contradiction

/-- Under either policy a call stands for the operation it was written for. -/
theorem operation?_call (l : Layout) (policy : Policy) (i : Instruction) {b : Bindings}
    (bound : b.kindOf? (l.helper i.operation.kind).text = some i.operation.kind) :
    operation? policy b (l.call i) = .ok (some i.operation) := by
  have called : (calledHelper? (l.call i)).bind b.kindOf? = some i.operation.kind := by
    rw [l.calledHelper?_call, Option.bind_some, bound]
  cases hk : i.operation.kind.takesOperand with
  | false => simp [operation?, called, hk, ofKind_kind hk]
  | true =>
    have numeral : i.numeral = Text.decimal i.operation.operand.toNat := by
      simp [Instruction.numeral, hk]
    obtain ⟨o, ho, hd⟩ := l.operand?_call i (by simp [numeral, Text.decimal, Nat.toDigits_ne_nil])
    have read : readOperand i.operation.kind (l.call i) = .ok i.operation.operand := by
      simp [readOperand, ho, hd, numeral, readDigits_decimal]
    rw [operation?_read called hk read, i.operation.ofKind_kind_operand]

theorem sequence_calls (l : Layout) (policy : Policy) {b : Bindings} {is : List Instruction}
    (bound : ∀ i ∈ is, b.kindOf? (l.helper i.operation.kind).text = some i.operation.kind) :
    sequence policy b (is.map l.call) = .ok (is.map Instruction.operation) := by
  induction is with
  | nil => rfl
  | cons i is ih =>
    rw [List.map_cons, sequence, l.operation?_call policy i (bound i (by simp)),
      ih fun j hj => bound j (by simp [hj])]
    rfl

end Layout
end Descramble.Script
