import Descramble.Proofs.Text.Avoids

namespace Descramble.Text

variable {p : Char → Bool}

/-- A text is cut in front of its first separator. -/
theorem exists_cut (p : Char → Bool) (s : Text) :
    ∃ u v, s = u ++ v ∧ Avoids p u ∧ (∀ c ∈ v.head?, p c = true) ∧ s.takeWhile (!p ·) = u := by
  refine ⟨s.takeWhile (!p ·), s.dropWhile (!p ·), ?_, ?_, ?_, rfl⟩
  · exact List.takeWhile_append_dropWhile.symm
  · intro c hc
    simpa using List.all_eq_true.mp List.all_takeWhile c hc
  · intro c first
    have stop := List.head?_dropWhile_not (!p ·) s
    rw [Option.mem_def.mp first] at stop
    simpa using stop

/-- The first piece is the text itself, or a separator follows it. -/
theorem pieces_cases (p : Char → Bool) (s : Text) :
    pieces p s = [s] ∨ ∃ first c rest, s = first ++ c :: rest ∧ p c = true ∧
      pieces p s = first :: pieces p rest := by
  obtain ⟨first, v, rfl, avoids, stop, -⟩ := exists_cut p s
  cases v with
  | nil =>
    rw [List.append_nil]
    exact .inl (pieces_of_avoids avoids)
  | cons c rest =>
    refine .inr ⟨first, c, rest, rfl, stop c rfl, ?_⟩
    rw [pieces_append_cons (stop c rfl), pieces_of_avoids avoids, List.singleton_append]

/-- The word stands in the text, and at both of its ends a separator or an end of the text. -/
def Separated (p : Char → Bool) (w s : Text) : Prop :=
  ∃ u v, s = u ++ (w ++ v) ∧ (∀ c ∈ u.getLast?, p c = true) ∧ ∀ c ∈ v.head?, p c = true

theorem Separated.append_cons (h : Separated p w s) (hc : p c = true) (first : Text) :
    Separated p w (first ++ c :: s) := by
  obtain ⟨u, v, rfl, before, behind⟩ := h
  refine ⟨first ++ c :: u, v, by simp, ?_, behind⟩
  intro d last
  cases u with
  | nil =>
    obtain rfl : c = d := by simpa using last
    exact hc
  | cons e u => exact before d (by simpa using last)

/-- A piece is a whole word between separators. -/
theorem separated_of_mem_pieces (h : w ∈ pieces p s) : Separated p w s := by
  generalize all : pieces p s = ps at h
  induction ps generalizing s with
  | nil => cases h
  | cons q ps ih =>
    rcases pieces_cases p s with one | ⟨first, c, rest, rfl, hc, more⟩
    · rw [all] at one
      obtain ⟨rfl, rfl⟩ := List.cons.inj one
      obtain rfl := List.mem_singleton.mp h
      exact ⟨[], [], by simp, by simp, by simp⟩
    · rw [all] at more
      obtain ⟨rfl, rfl⟩ := List.cons.inj more
      rcases List.mem_cons.mp h with rfl | h
      · exact ⟨[], c :: rest, rfl, by simp, by simpa using hc⟩
      · exact (ih rfl h).append_cons hc q

/-- The pieces of a text are what stands in it between separators. -/
theorem mem_pieces_iff : w ∈ pieces p s ↔ Avoids p w ∧ Separated p w s := by
  constructor
  · intro h
    exact ⟨pieces_avoid p s w h, separated_of_mem_pieces h⟩
  · intro h
    obtain ⟨avoids, u, v, rfl, before, behind⟩ := h
    have first : w ∈ pieces p (w ++ v) := by
      cases v with
      | nil => simp [pieces_of_avoids avoids]
      | cons c v => simp [pieces_append_cons (behind c rfl), pieces_of_avoids avoids]
    rcases List.eq_nil_or_concat u with rfl | ⟨u, c, rfl⟩
    · exact first
    · rw [List.concat_append, pieces_append_cons (before c (by simp))]
      exact List.mem_append_right _ first

end Descramble.Text
