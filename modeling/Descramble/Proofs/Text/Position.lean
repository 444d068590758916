import Mathlib.Data.Nat.Find
import Descramble.Proofs.Text.Extension

namespace Descramble.Text

/-- What stands at the smallest position at which anything stands. -/
def First (stands : Nat → α → Prop) (a : α) : Prop :=
  ∃ i, stands i a ∧ ∀ j < i, ∀ b, ¬ stands j b

/-- What stands anywhere stands somewhere first. -/
theorem exists_first_iff {stands : Nat → α → Prop} :
    (∃ a, First stands a) ↔ ∃ i a, stands i a := by
  classical
  constructor
  · intro first
    obtain ⟨a, i, here, -⟩ := first
    exact ⟨i, a, here⟩
  · intro found
    obtain ⟨a, here⟩ := Nat.find_spec found
    refine ⟨a, Nat.find found, here, ?_⟩
    intro j before b other
    exact Nat.find_min found before ⟨b, other⟩

/-- If one thing at most stands at each position, one at most is the first. -/
theorem First.unique {stands : Nat → α → Prop} (same : ∀ i a b, stands i a → stands i b → a = b)
    (h : First stands a) (h' : First stands b) : a = b := by
  obtain ⟨i, here, least⟩ := h
  obtain ⟨j, there, least'⟩ := h'
  rcases Nat.lt_trichotomy i j with before | rfl | behind
  · exact absurd here (least' i before a)
  · exact same i a b here there
  · exact absurd there (least j behind b)

/-- A part of what stands at the first position is the first of these parts. -/
theorem first_map_iff {stands : Nat → α → Prop} {part : α → β} :
    First (fun i b => ∃ a, stands i a ∧ part a = b) b ↔ ∃ a, First stands a ∧ part a = b := by
  constructor
  · intro first
    obtain ⟨i, ⟨a, here, rfl⟩, least⟩ := first
    exact ⟨a, ⟨i, here, fun j before c other => least j before (part c) ⟨c, other, rfl⟩⟩, rfl⟩
  · intro first
    obtain ⟨a, ⟨i, here, least⟩, rfl⟩ := first
    refine ⟨i, ⟨a, here, rfl⟩, ?_⟩
    rintro j before _ ⟨c, other, -⟩
    exact least j before c other

/-- The first of all is at the front, or else the first behind it. -/
theorem first_iff_zero_or_succ {p : Nat → α → Prop} :
    First p a ↔ p 0 a ∨ (∀ b, ¬ p 0 b) ∧ First (fun i => p (i + 1)) a := by
  constructor
  · intro first
    obtain ⟨i, here, least⟩ := first
    cases i with
    | zero => exact .inl here
    | succ i =>
      refine .inr ⟨least 0 (Nat.succ_pos i), i, here, ?_⟩
      intro j before
      exact least (j + 1) (Nat.succ_lt_succ before)
  · intro found
    obtain here | ⟨notHere, i, here, least⟩ := found
    · exact ⟨0, here, fun j before => absurd before (Nat.not_lt_zero j)⟩
    · refine ⟨i + 1, here, ?_⟩
      intro j before
      cases j with
      | zero => exact notHere
      | succ j => exact least j (Nat.lt_of_succ_lt_succ before)

/-- A search from the left answers with what `f` finds at the smallest position. -/
theorem leftmost_eq_some_iff_first :
    leftmost f s = some a ↔ First (fun i b => f (s.drop i) = some b) a := by
  induction s with
  | nil =>
    simp only [leftmost, List.drop_nil]
    constructor
    · intro here
      exact first_iff_zero_or_succ.mpr (.inl here)
    · intro first
      obtain ⟨i, here, -⟩ := first
      exact here
  | cons c s ih =>
    have positions := first_iff_zero_or_succ (p := fun i b => f ((c :: s).drop i) = some b) (a := a)
    rw [leftmost, Option.or_eq_some_iff, ih, positions, Option.eq_none_iff_forall_ne_some]
    rfl

/-- A name may begin at the front, and behind a character that neither continues nor qualifies
it. -/
theorem admits_take_iff {s : Text} (within : i ≤ s.length) : admits true (s.take i) = true ↔
    i = 0 ∨ ∃ c, s[i - 1]? = some c ∧ isWordChar c = false ∧ c ≠ '.' := by
  cases i with
  | zero => simp [admits]
  | succ i =>
    have here : s[i]? = some s[i] := List.getElem?_eq_getElem within
    simp [admits, List.getLast?_take, here, bounds]

/-- A search for names does so among the positions at which a name may begin. -/
theorem leftmostName_eq_some_iff_first : leftmostName f free s = some a ↔
    First (fun i b => admits free (s.take i) = true ∧ f (s.drop i) = some b) a := by
  induction s generalizing free with
  | nil =>
    simp only [leftmostName, Option.ite_none_right_eq_some, List.take_nil, List.drop_nil]
    constructor
    · intro here
      exact first_iff_zero_or_succ.mpr (.inl here)
    · intro first
      obtain ⟨i, here, -⟩ := first
      exact here
  | cons c s ih =>
    have missed : (if free then f (c :: s) else none) = none ↔
        ∀ b, ¬ (free = true ∧ f (c :: s) = some b) := by
      cases free <;> simp [Option.eq_none_iff_forall_ne_some]
    have positions := first_iff_zero_or_succ (a := a)
      (p := fun i b => admits free ((c :: s).take i) = true ∧ f ((c :: s).drop i) = some b)
    simp only [List.take_succ_cons, admits_cons, List.drop_succ_cons] at positions
    rw [leftmostName, Option.or_eq_some_iff, Option.ite_none_right_eq_some, ih, positions, missed]
    rfl

theorem leftmost_eq_none_iff_forall :
    leftmost f s = none ↔ ∀ i b, f (s.drop i) ≠ some b := by
  rw [Option.eq_none_iff_forall_ne_some]
  simp only [ne_eq, leftmost_eq_some_iff_first]
  rw [← not_exists, exists_first_iff]
  simp only [not_exists]

/-- The first find stands in front of all positions at which something can be found. -/
theorem leftmost_first (h : leftmost f s = some a) :
    ∃ before t, s = before ++ t ∧ f t = some a ∧
      ∀ before' t', s = before' ++ t' → f t' ≠ none → before.length ≤ before'.length := by
  obtain ⟨before, t, rfl, here, first⟩ := leftmost_eq_some.mp h
  refine ⟨before, t, rfl, here, ?_⟩
  intro before' t' split found
  obtain ⟨v, longer, -⟩ | ⟨v, shorter, rest⟩ := List.append_eq_append_iff.mp split
  · simp [longer]
  · by_cases same : v = []
    · simp [shorter, same]
    · rw [rest, first before' v shorter same] at found
      contradiction

/-- A mark does not stand within a text that is free of it, so behind the beginning of that text it
stands at its end at the earliest. -/
theorem length_le_of_mark (h : before ++ (free ++ mark :: r) = before' ++ (u ++ mark :: r'))
    (hm : mark ∉ free) (begins : before.length ≤ before'.length) :
    (before ++ free).length ≤ (before' ++ u).length := by
  by_contra early
  have size : (before' ++ u).length < before.length + free.length := by
    rw [← List.length_append]
    exact Nat.lt_of_not_le early
  have behind : before.length ≤ (before' ++ u).length := by
    rw [List.length_append]
    omega
  have here : (before ++ (free ++ mark :: r))[(before' ++ u).length]? = some mark := by
    rw [h, ← List.append_assoc, List.getElem?_append_right (Nat.le_refl _), Nat.sub_self]
    rfl
  rw [List.getElem?_append_right behind, List.getElem?_append_left (by omega)] at here
  exact hm (List.mem_of_getElem? here)

end Descramble.Text
