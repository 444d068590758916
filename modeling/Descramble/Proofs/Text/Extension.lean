import Descramble.Proofs.Text.Scan

namespace Descramble.Text

/-- A name may begin behind this text. -/
def admits (free : Bool) (before : Text) : Bool := (before.getLast?.map bounds).getD free

theorem admits_cons (free : Bool) (c : Char) (before : Text) :
    admits free (c :: before) = admits (bounds c) before := by
  rw [admits, admits, List.getLast?_cons]
  cases before.getLast? <;> rfl

/-- The find stands where a name may begin, and there is none at an earlier such position. -/
theorem leftmostName_eq_some : leftmostName f free s = some a ↔
    ∃ before t, s = before ++ t ∧ admits free before = true ∧ f t = some a ∧
      ∀ u v, before = u ++ v → v ≠ [] → admits free u = true → f (v ++ t) = none := by
  induction s generalizing free with
  | nil =>
    rw [leftmostName, Option.ite_none_right_eq_some]
    constructor
    · intro found
      obtain ⟨here, h⟩ := found
      refine ⟨[], [], rfl, here, h, ?_⟩
      intro u v split behind
      exact absurd (List.append_eq_nil_iff.mp split.symm).2 behind
    · intro found
      obtain ⟨before, t, split, here, h, -⟩ := found
      obtain ⟨rfl, rfl⟩ := List.append_eq_nil_iff.mp split.symm
      exact ⟨here, h⟩
  | cons c s ih =>
    have missed :
        (if free then f (c :: s) else none) = none ↔ (free = true → f (c :: s) = none) := by
      cases free <;> simp
    rw [leftmostName, Option.or_eq_some_iff, Option.ite_none_right_eq_some, missed, ih]
    constructor
    · intro found
      obtain ⟨here, h⟩ | ⟨missed', before, t, rfl, here, h, first⟩ := found
      · refine ⟨[], c :: s, rfl, here, h, ?_⟩
        intro u v split behind
        exact absurd (List.append_eq_nil_iff.mp split.symm).2 behind
      · refine ⟨c :: before, t, rfl, by rw [admits_cons, here], h, ?_⟩
        intro u v split behind opens
        cases u with
        | nil =>
          rw [List.nil_append] at split
          rw [← split]
          exact missed' opens
        | cons d u =>
          obtain ⟨rfl, rest⟩ := List.cons.inj split
          rw [admits_cons] at opens
          exact first u v rest behind opens
    · intro found
      obtain ⟨before, t, split, here, h, first⟩ := found
      cases before with
      | nil => exact .inl ⟨here, by rw [split, List.nil_append, h]⟩
      | cons d before =>
        obtain ⟨rfl, rfl⟩ := List.cons.inj split
        rw [admits_cons] at here
        refine .inr ⟨first [] (c :: before) rfl (List.cons_ne_nil c before), before, t, rfl, here,
          h, ?_⟩
        intro u v rest behind opens
        exact first (c :: u) v (by rw [rest, List.cons_append]) behind (by rw [admits_cons, opens])

/-- With `t` behind the text `f` finds what it found, changed by `grow`, and nothing in front of
it. -/
structure Unmoved (f : Text → Option α) (t : Text) (grow : α → α) : Prop where
  found : ∀ {u a}, f u = some a → f (u ++ t) = some (grow a)
  missed : ∀ {u a v}, f u = some a → v ≠ [] → f (v ++ u) = none → f (v ++ (u ++ t)) = none

theorem Unmoved.leftmost (h : Unmoved f t grow) (found : Text.leftmost f s = some a) :
    Text.leftmost f (s ++ t) = some (grow a) := by
  obtain ⟨before, u, rfl, here, first⟩ := leftmost_eq_some.mp found
  refine leftmost_eq_some.mpr ⟨before, u ++ t, List.append_assoc .., h.found here, ?_⟩
  intro w v split behind
  exact h.missed here behind (first w v split behind)

theorem Unmoved.leftmostName (h : Unmoved f t grow) (found : Text.leftmostName f free s = some a) :
    Text.leftmostName f free (s ++ t) = some (grow a) := by
  obtain ⟨before, u, rfl, place, here, first⟩ := leftmostName_eq_some.mp found
  refine leftmostName_eq_some.mpr ⟨before, u ++ t, List.append_assoc .., place, h.found here, ?_⟩
  intro w v split behind opens
  exact h.missed here behind (first w v split behind opens)

/-- The finds of a text stay as they are if none of them can reach into what is appended. -/
theorem eachName_append {f : Text → Option (α × Text)}
    (same : ∀ u, f (u ++ t) = (f u).map fun p => (p.1, p.2 ++ t))
    (nothing : ∀ v, v <:+ t → f v = none) (skip : Nat) (free : Bool) (s : Text) :
    eachName f skip free (s ++ t) = eachName f skip free s := by
  induction s generalizing skip free with
  | nil => exact eachName_eq_nil nothing skip free
  | cons c s ih =>
    cases skip with
    | succ k => exact ih k false
    | zero =>
      have here := same (c :: s)
      rw [List.cons_append] at here
      rw [List.cons_append, eachName, eachName]
      cases free with
      | false => exact ih 0 (bounds c)
      | true =>
        cases found : f (c :: s) with
        | none =>
          rw [found, Option.map_none] at here
          simp only [here, if_true]
          exact ih 0 (bounds c)
        | some p =>
          have skipped : (s ++ t).length - (p.2 ++ t).length = s.length - p.2.length := by
            simp only [List.length_append, Nat.add_sub_add_right]
          rw [found, Option.map_some] at here
          simp only [here, if_true, skipped, ih]

/-- If a mark stands behind `u` and `v` is free of it, then `v` with the mark is within `u` with the
mark. -/
theorem within_of_mark (h : u ++ mark :: s = v ++ mark :: r) (hv : mark ∉ v) :
    ∃ w, u ++ [mark] = v ++ mark :: w := by
  obtain ⟨w, hu, hr⟩ | ⟨w, hv', hs⟩ := List.append_eq_append_iff.mp h
  · cases w with
    | nil => exact ⟨[], by simp [hu]⟩
    | cons d w =>
      have same : mark = d := (List.cons.inj hr).1
      exact absurd (by simp [hu, same]) hv
  · cases w with
    | nil => exact ⟨[], by simp [hv']⟩
    | cons d w =>
      obtain ⟨rfl, -⟩ := List.cons.inj hs
      exact ⟨w ++ [mark], by simp [hv']⟩

/-- A mark that does not occur in `t` stands in front of it. -/
theorem split_before (h : u ++ t = v ++ mark :: r) (ht : mark ∉ t) :
    ∃ w, u = v ++ mark :: w ∧ r = w ++ t := by
  obtain ⟨w, hv, ht'⟩ | ⟨w, hu, hr⟩ := List.append_eq_append_iff.mp h
  · exact absurd (by simp [ht']) ht
  · cases w with
    | nil =>
      have all : mark :: r = t := hr
      exact absurd (all ▸ List.mem_cons_self) ht
    | cons d w =>
      obtain ⟨rfl, rest⟩ := List.cons.inj hr
      exact ⟨w, hu, rest⟩

end Descramble.Text
