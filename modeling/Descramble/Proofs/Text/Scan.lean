import Mathlib.Data.List.Basic
import Descramble.Text.Search

namespace Descramble.Text

/-- Nothing is found at a position of `u`, whatever text follows. -/
def Barren (f : Text → Option α) (u : Text) : Prop :=
  ∀ v, v <:+ u → v ≠ [] → ∀ s, f (v ++ s) = none

namespace Barren

theorem nil (f : Text → Option α) : Barren f [] := by
  intro v hv hne
  exact absurd (List.suffix_nil.mp hv) hne

theorem cons (here : ∀ s, f (c :: (u ++ s)) = none) (hu : Barren f u) : Barren f (c :: u) := by
  intro v hv hne s
  rcases List.suffix_cons_iff.mp hv with rfl | hv
  · exact here s
  · exact hu v hv hne s

theorem head (h : Barren f (c :: u)) (s : Text) : f (c :: (u ++ s)) = none :=
  h (c :: u) (List.suffix_refl _) (by simp) s

theorem tail (h : Barren f (c :: u)) : Barren f u := by
  intro v hv hne s
  exact h v (hv.trans (List.suffix_cons c u)) hne s

theorem append (hu : Barren f u) (hv : Barren f v) : Barren f (u ++ v) := by
  induction u with
  | nil => exact hv
  | cons c u ih =>
    have rest : Barren f (u ++ v) := ih hu.tail
    refine cons (u := u ++ v) ?_ rest
    intro s
    rw [List.append_assoc]
    exact hu.head (v ++ s)

/-- It is enough that finds begin with other characters. -/
theorem of_first (h : ∀ c ∈ u, ∀ s, f (c :: s) = none) : Barren f u := by
  induction u with
  | nil => exact nil f
  | cons c u ih => exact cons (fun s => h c (by simp) (u ++ s)) (ih fun d hd => h d (by simp [hd]))

end Barren

theorem leftmost_of_find (h : f s = some a) : leftmost f s = some a := by
  cases s with
  | nil => exact h
  | cons c s => rw [leftmost, h, Option.some_or]

theorem leftmost_barren (hu : Barren f u) (s : Text) : leftmost f (u ++ s) = leftmost f s := by
  induction u with
  | nil => rfl
  | cons c u ih => rw [List.cons_append, leftmost, hu.head s, Option.none_or, ih hu.tail]

theorem hasPart_append (a part b : Text) : hasPart part (a ++ (part ++ b)) = true := by
  rw [hasPart, Option.isSome_iff_ne_none]
  intro missed
  have here := leftmost_eq_none.mp missed (part ++ b) (List.suffix_append a _)
  rw [List.isPrefixOf?_eq_some_iff_append_eq.mpr rfl] at here
  contradiction

theorem hasPart_iff : hasPart part s = true ↔ ∃ before behind, s = before ++ (part ++ behind) := by
  constructor
  · intro found
    obtain ⟨behind, found⟩ := Option.isSome_iff_exists.mp found
    obtain ⟨before, t, rfl, here, -⟩ := leftmost_eq_some.mp found
    exact ⟨before, behind, by rw [List.isPrefixOf?_eq_some_iff_append_eq.mp here]⟩
  · intro split
    obtain ⟨before, behind, rfl⟩ := split
    exact hasPart_append before part behind

/-- The character in front of `s` tells whether a name may begin there. -/
theorem leftmostName_barren (hu : Barren f (u ++ [c])) (free : Bool) (s : Text) :
    leftmostName f free (u ++ c :: s) = leftmostName f (bounds c) s := by
  induction u generalizing free with
  | nil =>
    have here : f (c :: s) = none := hu.head s
    simp [leftmostName, here]
  | cons d u ih =>
    have here : f (d :: (u ++ c :: s)) = none := by simpa using Barren.head hu s
    simp [leftmostName, here, ih hu.tail]

theorem eachName_barren (hu : Barren f (u ++ [c])) (free : Bool) (s : Text) :
    eachName f 0 free (u ++ c :: s) = eachName f 0 (bounds c) s := by
  induction u generalizing free with
  | nil =>
    have here : f (c :: s) = none := hu.head s
    simp [eachName, here]
  | cons d u ih =>
    have here : f (d :: (u ++ c :: s)) = none := by simpa using Barren.head hu s
    simp [eachName, here, ih hu.tail]

theorem eachName_eq_nil (h : ∀ v, v <:+ u → f v = none) (skip : Nat) (free : Bool) :
    eachName f skip free u = [] := by
  induction u generalizing skip free with
  | nil => rfl
  | cons c u ih =>
    have here : f (c :: u) = none := h _ (List.suffix_refl _)
    have rest := ih fun v hv => h v (hv.trans (List.suffix_cons c u))
    cases skip <;> simp [eachName, here, rest]

/-- What belongs to a find is passed over, and a name cannot begin directly behind it. -/
theorem eachName_skip (f : Text → Option (α × Text)) (c : Char) (u s : Text) (free : Bool) :
    eachName f (u.length + 1) free (c :: (u ++ s)) = eachName f 0 false s := by
  induction u generalizing c free with
  | nil => rfl
  | cons d u ih =>
    rw [List.length_cons, eachName]
    exact ih d false

theorem eachName_find (h : f (c :: (u ++ s)) = some (a, s)) :
    eachName f 0 true (c :: (u ++ s)) = a :: eachName f 0 false s := by
  have skip : (u ++ s).length - s.length = u.length := by simp
  rw [eachName, if_pos rfl, h]
  simp only [skip]
  cases u with
  | nil => rfl
  | cons d u => rw [List.length_cons, List.cons_append, eachName_skip]

end Descramble.Text
