import Descramble.Proofs.Text.Name

namespace Descramble.Text

abbrev Gap := Run isBlank

theorem skipBlank_split (s : Text) : ∃ g : Gap, s = g.text ++ skipBlank s :=
  ⟨⟨s.takeWhile isBlank, List.all_takeWhile⟩, List.takeWhile_append_dropWhile.symm⟩

namespace Gap

/-- A word ends at a gap, and at a mark without a gap in front of it. -/
theorem not_isWordChar_head (g : Gap) (hc : isWordChar c = false) (s : Text) :
    ∀ d ∈ (g.text ++ c :: s).head?, isWordChar d = false := by
  intro d hd
  cases hg : g.text with
  | nil =>
    simp only [hg, List.nil_append, List.head?_cons, Option.mem_some_iff] at hd
    exact hd ▸ hc
  | cons e gap =>
    simp only [hg, List.cons_append, List.head?_cons, Option.mem_some_iff] at hd
    subst hd
    by_contra word
    have blank := g.forall_mem e (by simp [hg])
    rw [not_isBlank_of_isWordChar (by simpa using word)] at blank
    contradiction

theorem skipBlank_name (g : Gap) (n : Name) (s : Text) :
    skipBlank (g.text ++ (n.text ++ s)) = n.text ++ s := by
  rw [Text.skipBlank_append g.forall_mem, n.skipBlank_append]

theorem skipBlank_mark (g : Gap) (hc : Text.isBlank c = false) (s : Text) :
    skipBlank (g.text ++ c :: s) = c :: s := by
  rw [Text.skipBlank_append g.forall_mem, skipBlank_cons, hc]
  rfl

theorem symbol?_mark (g : Gap) (hc : Text.isBlank c = false) (s : Text) :
    symbol? c (g.text ++ c :: s) = some s :=
  Text.symbol?_append g.forall_mem hc s

theorem word?_name (g : Gap) (n : Name) (stop : ∀ c ∈ s.head?, isWordChar c = false) :
    word? (skipBlank (g.text ++ (n.text ++ s))) = some (n.text, s) := by
  rw [g.skipBlank_name]
  exact Text.word?_append n.forall_mem n.nonempty stop

end Gap

theorem symbol?_exists_gap (h : symbol? c s = some r) : ∃ g : Gap, s = g.text ++ c :: r := by
  obtain ⟨gap, split, blank⟩ := symbol?_eq_some h
  exact ⟨⟨gap, List.all_eq_true.mpr blank⟩, split⟩

theorem word?_exists_gap (h : word? (skipBlank s) = some (w, r)) :
    ∃ (g : Gap) (n : Name), n.text = w ∧ s = g.text ++ (n.text ++ r) := by
  obtain ⟨split, nonempty, isWord, -⟩ := word?_eq_some h
  obtain ⟨g, hg⟩ := skipBlank_split s
  exact ⟨g, ⟨w, nonempty, List.all_eq_true.mpr isWord⟩, rfl, by rw [← split, ← hg]⟩

theorem isPrefixOf?_exists_gap (h : w.isPrefixOf? (skipBlank s) = some r) :
    ∃ g : Gap, s = g.text ++ (w ++ r) := by
  obtain ⟨g, hg⟩ := skipBlank_split s
  rw [← List.isPrefixOf?_eq_some_iff_append_eq.mp h] at hg
  exact ⟨g, hg⟩

theorem char?_eq_some (h : char? c s = some r) : s = c :: r := by
  cases s with
  | nil => cases h
  | cons d s =>
    simp only [char?, Option.ite_none_right_eq_some, Option.some.injEq] at h
    rw [h.1, h.2]

theorem quote?_eq_some (h : quote? s = some r) : ∃ c, (c = '"' ∨ c = '\'') ∧ s = c :: r := by
  cases s with
  | nil => cases h
  | cons d s =>
    simp only [quote?, Option.ite_none_right_eq_some, Option.some.injEq] at h
    exact ⟨d, h.1, by rw [h.2]⟩

end Descramble.Text
