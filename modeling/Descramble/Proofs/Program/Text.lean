import Descramble.Operation
import Descramble.Proofs.Text.Decimal
import Descramble.Proofs.Text.Pieces

namespace Descramble

variable {p q : Program}

namespace Operation

def amount : Operation → Text
  | reverse => []
  | slice n | swap n => '(' :: (Text.decimal n.toNat ++ [')'])

theorem text_eq (op : Operation) : op.text = op.kind.name ++ op.amount := by
  cases op <;> rfl

/-- The separator of operations is in none of them. -/
theorem space_not_mem_text (op : Operation) : ' ' ∉ op.text := by
  have numeral : ∀ n, ' ' ∉ Text.decimal n := by
    intro n space
    exact absurd (Text.isDigit_of_mem_decimal space) (by decide)
  have name : ∀ kind : Kind, ' ' ∉ kind.name := by
    intro kind
    cases kind <;> decide
  rw [text_eq, List.mem_append, not_or]
  refine ⟨name op.kind, ?_⟩
  cases op with
  | reverse => exact List.not_mem_nil
  | slice n | swap n => simp [amount, numeral]

/-- A text of an operation begins with a letter. -/
theorem text_cons (op : Operation) : ∃ c r, op.text = c :: r ∧ c ≠ '(' := by
  cases op with
  | _ => exact ⟨_, _, rfl, by decide⟩

/-- Two letters tell the kind, so the name does, whatever follows. -/
theorem name_append_inj {k k' : Kind} (same : k.name ++ s = k'.name ++ t) : k = k' ∧ s = t := by
  have long : ∀ kind : Kind, 2 ≤ kind.name.length := by
    intro kind
    cases kind <;> decide
  have letters : k.name.take 2 = k'.name.take 2 := by
    have fronts := congrArg (List.take 2) same
    rwa [List.take_append_of_le_length (long k), List.take_append_of_le_length (long k')] at fronts
  obtain rfl : k = k' := by
    revert letters
    cases k <;> cases k' <;> decide
  exact ⟨rfl, List.append_cancel_left same⟩

theorem operand_text_inj {n m : UInt64}
    (same : '(' :: (Text.decimal n.toNat ++ [')']) = '(' :: (Text.decimal m.toNat ++ [')'])) :
    n = m := by
  have numerals := List.append_cancel_right (List.cons.inj same).2
  exact UInt64.toNat_inj.mp (Text.decimal_inj.mp numerals)

theorem text_injective {op op' : Operation} (same : op.text = op'.text) : op = op' := by
  rw [text_eq, text_eq] at same
  obtain ⟨kind, amount⟩ := name_append_inj same
  rw [← op.ofKind_kind_operand, ← op'.ofKind_kind_operand, ← kind]
  cases op <;> cases op' <;> cases kind
  · rfl
  · rw [operand, operand, operand_text_inj amount]
  · rw [operand, operand, operand_text_inj amount]

end Operation

namespace Program

/-- The texts of the operations stand between the blanks of the text. -/
theorem pieces_text (more : p ≠ []) : Text.pieces (· == ' ') p.text = p.map Operation.text := by
  refine Text.pieces_join ' ' ?_ (by simpa using more)
  intro s hs
  obtain ⟨op, -, rfl⟩ := List.mem_map.mp hs
  exact op.space_not_mem_text

/-- A text begins with that of the first operation. -/
theorem text_cons (op : Operation) (p : Program) : ∃ rest, text (op :: p) = op.text ++ rest := by
  cases p with
  | nil => exact ⟨[], by simp [text, Text.join]⟩
  | cons op' p =>
    refine ⟨' ' :: text (op' :: p), ?_⟩
    simp [text, Text.join, List.intercalate_cons_cons]

/-- No program is written like the label of the empty one. -/
theorem text_ne_parenthesis (p : Program) (s : Text) : p.text ≠ '(' :: s := by
  cases p with
  | nil => simp [text, Text.join]
  | cons op p =>
    obtain ⟨rest, whole⟩ := text_cons op p
    obtain ⟨c, r, front, letter⟩ := op.text_cons
    rw [whole, front]
    intro same
    exact letter (List.cons.inj same).1

theorem text_eq_nil_iff : p.text = [] ↔ p = [] := by
  cases p with
  | nil => exact iff_of_true rfl rfl
  | cons op p =>
    obtain ⟨rest, whole⟩ := text_cons op p
    obtain ⟨c, r, front, -⟩ := op.text_cons
    exact iff_of_false (by simp [whole, front]) (List.cons_ne_nil op p)

theorem text_injective (same : p.text = q.text) : p = q := by
  by_cases idle : p = []
  · rw [idle] at same ⊢
    exact (text_eq_nil_iff.mp same.symm).symm
  · have busy : q ≠ [] := by
      intro rest
      rw [rest] at same
      exact idle (text_eq_nil_iff.mp same)
    have texts : p.map Operation.text = q.map Operation.text := by
      rw [← pieces_text idle, ← pieces_text busy, same]
    exact List.map_inj_right (fun _ _ => Operation.text_injective) |>.mp texts

theorem label_eq_iff : p.label = q.label ↔ p = q := by
  have named : "(empty)".toList = '(' :: "empty)".toList := rfl
  constructor
  · intro same
    cases p with
    | nil =>
      cases q with
      | nil => rfl
      | cons op q => exact absurd (same.symm.trans named) (text_ne_parenthesis (op :: q) _)
    | cons op p =>
      cases q with
      | nil => exact absurd (same.trans named) (text_ne_parenthesis (op :: p) _)
      | cons op' q => exact text_injective same
  · intro same
    rw [same]

/-- Programs with the same text are the same, and so are programs with the same label. What an
empty program is called is the text of no program. -/
theorem text_unambiguous (p q : Program) :
    (p.text = q.text ↔ p = q) ∧ (p.label = q.label ↔ p = q) ∧
      (p.label = "(empty)".toList ↔ p = []) ∧ p.text ≠ "(empty)".toList := by
  refine ⟨⟨text_injective, fun same => by rw [same]⟩, label_eq_iff, ?_, text_ne_parenthesis p _⟩
  exact label_eq_iff (q := [])

/-- The numeral of a count may be the front of another one. -/
example : text [.slice 1, .swap 12] = "slice(1) swap(12)".toList := by decide

end Program
end Descramble
