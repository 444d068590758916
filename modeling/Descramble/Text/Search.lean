import Descramble.Text.Word

namespace Descramble.Text

/-- What `f` finds at the smallest position where it finds anything. -/
def leftmost (f : Text → Option α) : Text → Option α
  | [] => f []
  | c :: s => (f (c :: s)).or (leftmost f s)

/-- A name begins only behind a character that neither continues nor qualifies it. -/
def bounds (c : Char) : Bool := !isWordChar c && c != '.'

/-- As `leftmost`, at positions where a name may begin; `free` tells whether the first one is. -/
def leftmostName (f : Text → Option α) (free : Bool) : Text → Option α
  | [] => if free then f [] else none
  | c :: s => (if free then f (c :: s) else none).or (leftmostName f (bounds c) s)

/-- What `f` finds at positions where a name may begin, from left to right. `f` answers with the
text behind its find; the bounding character of the next name lies there. -/
def eachName (f : Text → Option (α × Text)) (skip : Nat) (free : Bool) : Text → List α
  | [] => []
  | c :: s =>
    match skip with
    | k + 1 => eachName f k false s
    | 0 =>
      match if free then f (c :: s) else none with
      | some (a, behind) => a :: eachName f (s.length - behind.length) false s
      | none => eachName f 0 (bounds c) s

def hasPart (part s : Text) : Bool := (leftmost part.isPrefixOf? s).isSome

theorem leftmost_eq_none : leftmost f s = none ↔ ∀ t, t <:+ s → f t = none := by
  induction s with
  | nil => simp [leftmost]
  | cons c s ih =>
    simp only [leftmost, Option.or_eq_none_iff, ih, List.suffix_cons_iff]
    constructor
    · rintro ⟨h, hs⟩ t (rfl | ht)
      · exact h
      · exact hs t ht
    · exact fun h => ⟨h _ (.inl rfl), fun t ht => h t (.inr ht)⟩

/-- The find stands at some position, and no earlier one has any. -/
theorem leftmost_eq_some : leftmost f s = some a ↔
    ∃ before t, s = before ++ t ∧ f t = some a ∧
      ∀ u v, before = u ++ v → v ≠ [] → f (v ++ t) = none := by
  induction s with
  | nil =>
    simp only [leftmost]
    constructor
    · exact fun h => ⟨[], [], rfl, h, fun u v he hv => by simp_all⟩
    · rintro ⟨before, t, he, h, -⟩
      obtain ⟨rfl, rfl⟩ := List.append_eq_nil_iff.mp he.symm
      exact h
  | cons c s ih =>
    simp only [leftmost, Option.or_eq_some_iff, ih]
    constructor
    · rintro (h | ⟨hc, before, t, rfl, ht, first⟩)
      · exact ⟨[], c :: s, rfl, h, fun u v he hv => by simp_all⟩
      · refine ⟨c :: before, t, rfl, ht, fun u v he hv => ?_⟩
        cases u with
        | nil =>
          simp only [List.nil_append] at he
          subst he
          exact hc
        | cons d u => exact first u v (by simp_all) hv
    · rintro ⟨before, t, he, ht, first⟩
      cases before with
      | nil =>
        left
        rw [he]
        exact ht
      | cons d before =>
        simp only [List.cons_append, List.cons.injEq] at he
        obtain ⟨rfl, rfl⟩ := he
        refine .inr ⟨first [] (c :: before) rfl (by simp), before, t, rfl, ht, fun u v h hv => ?_⟩
        exact first (c :: u) v (by simp [h]) hv

end Descramble.Text
