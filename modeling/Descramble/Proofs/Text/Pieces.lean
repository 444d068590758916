import Descramble.Proofs.Text.Name

namespace Descramble.Text

theorem pieces_eq_splitOnP (separates : Char → Bool) (s : Text) :
    pieces separates s = s.splitOnP separates := by
  induction s with
  | nil => rfl
  | cons c s ih =>
    rw [List.splitOnP_cons_eq_if_modifyHead, ← ih]
    cases hs : pieces separates s with
    | nil => exact absurd hs (pieces_ne_nil separates s)
    | cons p ps => cases hc : separates c <;> simp [pieces, hc, hs]

theorem pieces_append_cons (hc : p c = true) (s t : Text) :
    pieces p (s ++ c :: t) = pieces p s ++ pieces p t := by
  simp only [pieces_eq_splitOnP]
  exact List.splitOnP_append_cons s t hc

theorem pieces_join (c : Char) (hps : ∀ p ∈ ps, c ∉ p) (hne : ps ≠ []) :
    pieces (· == c) (join [c] ps) = ps := by
  rw [pieces_eq_splitOnP, ← List.splitOn_eq_splitOnP]
  exact List.splitOn_intercalate c hps hne

theorem mem_join (h : c ∈ join separator ps) : c ∈ separator ∨ ∃ p ∈ ps, c ∈ p := by
  induction ps with
  | nil => simp [join] at h
  | cons p ps ih =>
    cases ps with
    | nil => exact .inr ⟨p, by simp, by simpa [join] using h⟩
    | cons q qs =>
      rw [join, List.intercalate_cons_cons] at h
      simp only [List.append_assoc, List.mem_append] at h
      rcases h with h | h | h
      · exact .inr ⟨p, by simp, h⟩
      · exact .inl h
      · rcases ih h with h | ⟨r, hr, hc⟩
        · exact .inl h
        · exact .inr ⟨r, List.mem_cons_of_mem p hr, hc⟩

/-- What stands between the first part and the last one. -/
theorem join_ends (separator first last : Text) (ps : List Text) :
    join separator (first :: (ps ++ [last])) =
      first ++ (ps.flatMap (separator ++ ·) ++ (separator ++ last)) := by
  induction ps generalizing first with
  | nil => simp [join, List.intercalate_cons_cons]
  | cons p ps ih =>
    have rest := ih p
    rw [join] at rest ⊢
    rw [List.cons_append, List.intercalate_cons_cons, rest]
    simp

theorem Barren.join (hs : Barren f separator) (hps : ∀ p ∈ ps, Barren f p) :
    Barren f (join separator ps) := by
  induction ps with
  | nil => exact .nil f
  | cons p ps ih =>
    have rest := ih fun q hq => hps q (List.mem_cons_of_mem p hq)
    cases ps with
    | nil => simpa [Text.join] using hps p (by simp)
    | cons q qs =>
      rw [Text.join, List.intercalate_cons_cons]
      exact ((hps p (by simp)).append hs).append rest

theorem skipBlank_eq_self (h : ∀ c ∈ s.head?, isBlank c = false) : skipBlank s = s := by
  cases s with
  | nil => rfl
  | cons c s => rw [skipBlank_cons, h c (by simp), if_neg (by simp)]

theorem trim_eq_self (hh : ∀ c ∈ s.head?, isBlank c = false)
    (hl : ∀ c ∈ s.getLast?, isBlank c = false) : trim s = s := by
  have back : skipBlank s.reverse = s.reverse := skipBlank_eq_self (by simpa using hl)
  rw [trim, skipBlank_eq_self hh, back, List.reverse_reverse]

theorem Name.trim_text (n : Name) : trim n.text = n.text := by
  apply trim_eq_self
  · intro c hc
    exact not_isBlank_of_isWordChar (n.forall_mem c (List.mem_of_mem_head? hc))
  · intro c hc
    exact not_isBlank_of_isWordChar (n.forall_mem c (List.mem_of_getLast? hc))

end Descramble.Text
