import Descramble.Text.Basic

namespace Descramble.Text

/-- Characters that pass a test, which may be none. -/
structure Run (p : Char → Bool) where
  text : Text
  passes : text.all p = true := by decide

/-- One or more characters that pass a test. -/
structure Span (p : Char → Bool) where
  text : Text
  nonempty : text ≠ [] := by decide
  passes : text.all p = true := by decide

section

variable {p : Char → Bool} {c : Char}

namespace Run

def nothing : Run p := ⟨[], rfl⟩

variable (r : Run p)

theorem forall_mem : ∀ c ∈ r.text, p c = true := List.all_eq_true.mp r.passes

theorem not_mem (hc : p c = false) : c ∉ r.text := by
  intro mem
  rw [r.forall_mem c mem] at hc
  cases hc

/-- In front of a character that fails the test a run is passed over, and nothing more. -/
theorem dropWhile_append (hc : p c = false) (s : Text) :
    (r.text ++ c :: s).dropWhile p = c :: s := by
  rw [List.dropWhile_append_of_pos r.forall_mem, List.dropWhile_cons_of_neg (by simp [hc])]

theorem dropWhile_text : r.text.dropWhile p = [] := by
  have whole : (r.text ++ []).dropWhile p = [] := List.dropWhile_append_of_pos r.forall_mem
  rwa [List.append_nil] at whole

end Run

namespace Span

variable (n : Span p)

theorem forall_mem : ∀ c ∈ n.text, p c = true := List.all_eq_true.mp n.passes

theorem not_mem (hc : p c = false) : c ∉ n.text := (Run.mk n.text n.passes).not_mem hc

theorem exists_cons : ∃ c s, n.text = c :: s ∧ p c = true ∧ ∀ d ∈ s, p d = true := by
  have tests := n.forall_mem
  cases front : n.text with
  | nil => exact absurd front n.nonempty
  | cons c s =>
    rw [front] at tests
    exact ⟨c, s, rfl, List.forall_mem_cons.mp tests⟩

end Span
end
end Descramble.Text
