import Descramble.Proofs.Text.Run
import Descramble.Proofs.Text.Scan

namespace Descramble.Text

abbrev Name := Span isWordChar

theorem isPrefixOf?_append (w s : Text) : w.isPrefixOf? (w ++ s) = some s :=
  List.isPrefixOf?_eq_some_iff_append_eq.mpr rfl

theorem symbol?_cons (hc : isBlank c = false) (s : Text) : symbol? c (c :: s) = some s := by
  simp [symbol?, skipBlank_cons, hc]

theorem symbol?_cons_ne (hd : isBlank d = false) (hne : d ≠ c) (s : Text) :
    symbol? c (d :: s) = none := by
  simp [symbol?, skipBlank_cons, hd, hne]

/-- Only blanks are passed over in front of a mark. -/
theorem symbol?_eq_some (h : symbol? c s = some r) :
    ∃ gap, s = gap ++ c :: r ∧ ∀ d ∈ gap, isBlank d = true := by
  have whole : s.takeWhile isBlank ++ skipBlank s = s := List.takeWhile_append_dropWhile
  unfold symbol? at h
  cases hs : skipBlank s with
  | nil => simp [hs] at h
  | cons d t =>
    simp only [hs, Option.ite_none_right_eq_some, Option.some.injEq] at h
    obtain ⟨rfl, rfl⟩ := h
    refine ⟨s.takeWhile isBlank, by rw [← hs, whole], ?_⟩
    intro e he
    exact List.all_eq_true.mp List.all_takeWhile e he

namespace Name

/-- A word does not begin with a mark. -/
theorem isPrefixOf?_mark (n : Name) (hc : isWordChar c = false) (s : Text) :
    n.text.isPrefixOf? (c :: s) = none := by
  obtain ⟨d, w, hn, hd, -⟩ := n.exists_cons
  have hne : d ≠ c := by
    rintro rfl
    rw [hc] at hd
    contradiction
  simp [hn, List.isPrefixOf?, hne]

theorem skipBlank_append (n : Name) (s : Text) : skipBlank (n.text ++ s) = n.text ++ s := by
  obtain ⟨c, w, hn, hc, -⟩ := n.exists_cons
  rw [hn, List.cons_append, skipBlank_cons, not_isBlank_of_isWordChar hc]
  rfl

theorem word?_append (n : Name) (hc : isWordChar c = false) (s : Text) :
    word? (n.text ++ c :: s) = some (n.text, c :: s) := by
  apply Text.word?_append n.forall_mem n.nonempty
  intro d hd
  simp only [List.head?_cons, Option.mem_some_iff] at hd
  exact hd ▸ hc

/-- A word is read in front of a mark to its end, or something of the word there is left over. -/
theorem isPrefixOf?_name (n m : Name) (hc : isWordChar c = false) (s : Text) :
    n.text = m.text ∧ n.text.isPrefixOf? (m.text ++ c :: s) = some (c :: s) ∨
      n.text ≠ m.text ∧ ∀ r, n.text.isPrefixOf? (m.text ++ c :: s) = some r →
        ∃ d t, r = d :: t ∧ isWordChar d = true := by
  by_cases he : n.text = m.text
  · exact .inl ⟨he, by rw [he, isPrefixOf?_append]⟩
  · refine .inr ⟨he, ?_⟩
    intro r hr
    have split := List.isPrefixOf?_eq_some_iff_append_eq.mp hr
    rcases List.append_eq_append_iff.mp split with ⟨a, hm, rfl⟩ | ⟨a, hn, hs⟩
    · cases a with
      | nil => exact absurd (by simpa using hm.symm) he
      | cons d a => exact ⟨d, a ++ c :: s, rfl, m.forall_mem d (by simp [hm])⟩
    · cases a with
      | nil => exact absurd (by simpa using hn) he
      | cons d a =>
        have hd := n.forall_mem d (by simp [hn])
        rw [← (List.cons.inj hs).1, hc] at hd
        contradiction

/-- One word is read as the other only if they agree to their ends. -/
theorem isPrefixOf?_bind_symbol? (n m : Name) (hc : isWordChar c = false)
    (hd : isWordChar d = false) (s : Text) :
    (n.text.isPrefixOf? (m.text ++ d :: s)).bind (symbol? c) =
      if n.text = m.text then symbol? c (d :: s) else none := by
  rcases n.isPrefixOf?_name m hd s with ⟨he, hr⟩ | ⟨he, left⟩
  · rw [if_pos he, hr, Option.bind_some]
  · rw [if_neg he, Option.bind_eq_none_iff]
    intro r hr
    obtain ⟨e, t, rfl, hw⟩ := left r hr
    apply symbol?_cons_ne (not_isBlank_of_isWordChar hw)
    rintro rfl
    rw [hc] at hw
    contradiction

/-- In front of the mark that follows a name there are the name and blanks only. -/
theorem eq_of_bind_symbol? (n : Name) (h : (n.text.isPrefixOf? s).bind (symbol? c) = some r) :
    ∃ front, s = front ++ c :: r ∧ ∀ d ∈ front, isWordChar d = true ∨ isBlank d = true := by
  obtain ⟨t, ht, hr⟩ := Option.bind_eq_some_iff.mp h
  obtain ⟨gap, hg, blank⟩ := symbol?_eq_some hr
  have hs := List.isPrefixOf?_eq_some_iff_append_eq.mp ht
  refine ⟨n.text ++ gap, by rw [← hs, hg, List.append_assoc], ?_⟩
  intro d hd
  rcases List.mem_append.mp hd with hd | hd
  · exact .inl (n.forall_mem d hd)
  · exact .inr (blank d hd)

end Name

/-- Without the mark that every find contains there is no find, if the text ends with something
that keeps words and blanks in front of it from reaching the mark behind it. -/
theorem barren_of_mark
    (reads : ∀ t, f t ≠ none →
      ∃ front rest, t = front ++ mark :: rest ∧ ∀ d ∈ front, isWordChar d = true ∨ isBlank d = true)
    (hu : mark ∉ u) (hne : c ≠ mark) (hw : isWordChar c = false) (hb : isBlank c = false) :
    Barren f (u ++ [c]) := by
  intro v hv hvne s
  by_contra found
  obtain ⟨front, rest, ht, hf⟩ := reads _ found
  obtain rfl | ⟨w, rfl, hwu⟩ := List.suffix_concat_iff.mp hv
  · exact hvne rfl
  rw [List.append_assoc, List.singleton_append] at ht
  rcases List.append_eq_append_iff.mp ht with ⟨a, hfront, hrest⟩ | ⟨a, hwa, hrest⟩
  · cases a with
    | nil => exact hne (by simpa using (List.cons.inj hrest).1)
    | cons d a =>
      have hd : c = d := (List.cons.inj hrest).1
      have := hf c (by simp [hfront, hd])
      simp [hw, hb] at this
  · cases a with
    | nil => exact hne (List.cons.inj hrest).1.symm
    | cons d a =>
      have hd : mark = d := (List.cons.inj hrest).1
      exact hu (hwu.subset (by simp [hwa, hd]))

theorem leftmostName_of_find (h : f s = some a) : leftmostName f true s = some a := by
  cases s with
  | nil => exact h
  | cons c s => rw [leftmostName, if_pos rfl, h, Option.some_or]

/-- Nothing is looked for inside a word. -/
theorem eachName_word (hw : ∀ c ∈ w, isWordChar c = true) (s : Text) :
    eachName f 0 false (w ++ s) = eachName f 0 false s := by
  induction w with
  | nil => rfl
  | cons c w ih =>
    have hc : bounds c = false := by simp [bounds, hw c (by simp)]
    rw [List.cons_append, eachName]
    simp only [Bool.false_eq_true, if_false, hc]
    exact ih fun d hd => hw d (by simp [hd])

/-- A name is tried at its first character only. -/
theorem eachName_name (n : Name) (h : f (n.text ++ s) = none) (free : Bool) :
    eachName f 0 free (n.text ++ s) = eachName f 0 false s := by
  obtain ⟨c, w, hn, hc, hw⟩ := n.exists_cons
  have hb : bounds c = false := by simp [bounds, hc]
  rw [hn, List.cons_append] at h ⊢
  rw [eachName]
  simp only [h, ite_self, hb]
  exact eachName_word hw s

end Descramble.Text
