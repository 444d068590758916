import Descramble.Proofs.Script.Selection
import Descramble.Script.Helper

namespace Descramble.Script

/-- How many characters other than blanks stand in front of the first dot. -/
def solid : Text → Nat
  | [] => 0
  | c :: s => if c = '.' then 0 else (if Text.isBlank c then 0 else 1) + solid s

theorem solid_append (s t : Text) : solid (s ++ t) = solid s + if '.' ∈ s then 0 else solid t := by
  induction s with
  | nil => simp [solid]
  | cons c s ih =>
    by_cases dot : c = '.'
    · simp [solid, dot]
    · simp only [List.cons_append, solid, dot, if_false, ih, List.mem_cons, Ne.symm dot, false_or]
      omega

theorem solid_blank (h : ∀ c ∈ gap, Text.isBlank c = true) (s : Text) :
    solid (gap ++ s) = solid s := by
  induction gap with
  | nil => rfl
  | cons c gap ih =>
    have blank := h c List.mem_cons_self
    have dot : c ≠ '.' := by
      rintro rfl
      cases blank
    rw [List.cons_append, solid, if_neg dot, blank, if_pos rfl, Nat.zero_add]
    exact ih fun d hd => h d (List.mem_cons_of_mem c hd)

theorem solid_pos (hc : c ∈ s) (written : Text.isBlank c = false) (dot : '.' ∉ s) :
    0 < solid s := by
  induction s with
  | nil => cases hc
  | cons d s ih =>
    simp only [List.mem_cons, not_or] at dot
    rw [solid, if_neg (Ne.symm dot.1)]
    rcases List.mem_cons.mp hc with rfl | hc
    · rw [written]
      exact Nat.lt_of_lt_of_le Nat.one_pos (Nat.le_add_right 1 _)
    · exact Nat.lt_of_lt_of_le (ih hc dot.2) (Nat.le_add_left _ _)

/-- In front of the first dot there is nothing but what a selection is made from, if no keyword
leads to it. -/
theorem SelectionForm.solid_text (d : SelectionForm) (bare : d.lead = []) (target : Text) :
    solid (d.text target) = solid target := by
  have call : solid d.call = 0 := by
    rw [SelectionForm.call, solid_blank d.beforeDot.forall_mem, solid, if_pos rfl]
  rw [SelectionForm.text, bare, List.nil_append, solid_blank d.beforeLead.forall_mem, solid_append,
    call, ite_self, Nat.add_zero]

theorem CaptureForm.solid_front (d : CaptureForm) (s : Text) : solid s < solid (d.front ++ s) := by
  have equals : '=' ∈ d.declaration := by simp [declaration]
  have pos := solid_pos equals rfl d.dot_not_mem
  rw [front, List.append_assoc, solid_blank d.beforeKeyword.forall_mem, solid_append,
    if_neg d.dot_not_mem]
  omega

/-- A body cannot both begin with its first parameter and a dot and capture that parameter: the
text in front of the first dot would be longer than itself. -/
theorem capture?_of_selection? (selected : selection? target body = some arguments) :
    capture? target body = none := by
  by_contra captured
  obtain ⟨rest, hr⟩ := Option.ne_none_iff_exists'.mp captured
  obtain ⟨d, written, -⟩ := capture?_eq_some hr
  obtain ⟨d', written', -⟩ := selection?_eq_some selected
  rcases d'.returns with bare | ⟨g, -, lead⟩
  · have more := d.solid_front (target ++ rest)
    rw [← written, written', d'.solid_text bare, solid_append] at more
    omega
  · have split : Text.skipBlank body = d.declaration ++ (target ++ rest) := by
      rw [written, d.skipBlank_front]
    have returns : returnWord <+: Text.skipBlank body := by
      rw [written', SelectionForm.text, lead, Text.skipBlank_append d'.beforeLead.forall_mem]
      exact ⟨g.text ++ (target ++ d'.call), by rw [← List.append_assoc]; rfl⟩
    have begins : d.keyword <+: Text.skipBlank body :=
      split ▸ (List.prefix_append ..).trans (List.prefix_append ..)
    have apart : ∀ w ∈ bindingWords, ¬ w <+: returnWord ∧ ¬ returnWord <+: w := by decide
    rcases List.prefix_or_prefix_of_prefix begins returns with h | h
    · exact (apart d.keyword d.known).1 h
    · exact (apart d.keyword d.known).2 h

/-- A selection has its dot right behind its target, and a capture has its target in front of any
dot. -/
theorem Helper.not_isSwap_of_isSlice {h : Helper} (slice : h.isSlice = true) :
    h.isSwap = false := by
  unfold isSlice at slice
  split at slice
  · next target amount parameters =>
    cases selected : selection? target h.body with
    | none => simp [selected] at slice
    | some arguments => simp [isSwap, parameters, capture?_of_selection? selected]
  · cases slice

theorem Helper.length_of_isSlice {h : Helper} (slice : h.isSlice = true) :
    h.parameters.length = 2 := by
  unfold isSlice at slice
  split at slice
  · next target amount parameters => exact congrArg List.length parameters
  · cases slice

theorem Helper.length_of_isSwap {h : Helper} (swap : h.isSwap = true) :
    h.parameters.length = 2 := by
  unfold isSwap at swap
  split at swap
  · next target amount parameters => exact congrArg List.length parameters
  · cases swap

/-- A reversal has one parameter, and the other two kinds have two. -/
theorem Helper.not_isReverse {h : Helper} (two : h.parameters.length = 2) :
    h.isReverse = false := by
  simp [isReverse, two]

/-- No helper scrambles in two ways. -/
theorem Rule.accepts_exclusive {h : Helper} (accepts : (ofKind k).accepts h = true)
    (accepts' : (ofKind k').accepts h = true) : k = k' := by
  have slice : h.isSlice = true → h.isReverse = false ∧ h.isSwap = false := fun slice =>
    ⟨Helper.not_isReverse (Helper.length_of_isSlice slice), Helper.not_isSwap_of_isSlice slice⟩
  have swap : h.isSwap = true → h.isReverse = false := fun swap =>
    Helper.not_isReverse (Helper.length_of_isSwap swap)
  cases k <;> cases k' <;> simp only [ofKind] at accepts accepts' <;> simp_all

/-- No helper has more than one of the three shapes. -/
theorem Helper.count_shapes_le_one (h : Helper) :
    [h.isReverse, h.isSlice, h.isSwap].count true ≤ 1 := by
  cases slice : h.isSlice with
  | true =>
    have reverse := not_isReverse (length_of_isSlice slice)
    have swap := not_isSwap_of_isSlice slice
    simp [reverse, swap]
  | false =>
    cases swap : h.isSwap with
    | true =>
      have reverse := not_isReverse (length_of_isSwap swap)
      simp [reverse]
    | false => cases h.isReverse <;> simp

end Descramble.Script
