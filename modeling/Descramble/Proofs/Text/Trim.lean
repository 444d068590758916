import Mathlib.Data.List.TakeWhile
import Descramble.Proofs.Text.Gap
import Descramble.Proofs.Text.Pieces

namespace Descramble.Text

structure Trimmed (s : Text) : Prop where
  head : ∀ c ∈ s.head?, isBlank c = false
  last : ∀ c ∈ s.getLast?, isBlank c = false

def Gap.reverse (g : Gap) : Gap := ⟨g.text.reverse, by rw [List.all_reverse, g.passes]⟩

@[simp] theorem Gap.text_reverse (g : Gap) : g.reverse.text = g.text.reverse := rfl

theorem skipBlank_gap (g : Gap) : skipBlank g.text = [] :=
  List.dropWhile_eq_nil_iff.mpr g.forall_mem

theorem not_isBlank_of_mem_skipBlank (h : c ∈ (skipBlank s).head?) : isBlank c = false := by
  have first := List.head?_dropWhile_not isBlank s
  rw [← skipBlank, Option.mem_def.mp h] at first
  exact first

theorem trimmed_nil : Trimmed [] := ⟨nofun, nofun⟩

/-- What is trimmed are the blanks around a text that has none at its ends. -/
theorem Trimmed.trim_padded (h : Trimmed s) (before behind : Gap) :
    trim (before.text ++ (s ++ behind.text)) = s := by
  rw [trim, skipBlank_append before.forall_mem]
  cases s with
  | nil =>
    rw [List.nil_append, skipBlank_gap]
    rfl
  | cons c s =>
    have front : skipBlank (c :: s ++ behind.text) = c :: s ++ behind.text :=
      skipBlank_eq_self h.head
    have back : skipBlank (c :: s).reverse = (c :: s).reverse :=
      skipBlank_eq_self (by simpa only [List.head?_reverse] using h.last)
    rw [front, List.reverse_append, ← behind.text_reverse,
      skipBlank_append behind.reverse.forall_mem, back, List.reverse_reverse]

theorem trim_gap (g : Gap) : trim g.text = [] := by
  simpa [Text.Run.nothing] using trimmed_nil.trim_padded g Text.Run.nothing

theorem skipBlank_eq_trim_append (s : Text) :
    ∃ behind : Gap, skipBlank s = trim s ++ behind.text := by
  obtain ⟨behind, back⟩ := skipBlank_split (skipBlank s).reverse
  refine ⟨behind.reverse, ?_⟩
  rw [trim, behind.text_reverse, ← List.reverse_append, ← back, List.reverse_reverse]

/-- Around what is left of a text there are only blanks. -/
theorem exists_padding (s : Text) :
    ∃ before behind : Gap, s = before.text ++ (trim s ++ behind.text) := by
  obtain ⟨before, front⟩ := skipBlank_split s
  obtain ⟨behind, back⟩ := skipBlank_eq_trim_append s
  exact ⟨before, behind, by rw [← back, ← front]⟩

theorem trimmed_trim (s : Text) : Trimmed (trim s) := by
  constructor
  · intro c hc
    obtain ⟨behind, back⟩ := skipBlank_eq_trim_append s
    apply not_isBlank_of_mem_skipBlank (s := s)
    rw [back, List.head?_append, Option.mem_def.mp hc]
    rfl
  · intro c hc
    rw [trim, List.getLast?_reverse] at hc
    exact not_isBlank_of_mem_skipBlank hc

end Descramble.Text
