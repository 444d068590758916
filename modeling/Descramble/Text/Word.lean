import Descramble.Text.Character

namespace Descramble.Text

def wordRanges : List (Nat × Nat) := [(36, 36), (48, 57), (65, 90), (95, 95), (97, 122)]

def isWordChar (c : Char) : Bool := inRanges wordRanges c

def word? (s : Text) : Option (Text × Text) :=
  match s.takeWhile isWordChar with
  | [] => none
  | c :: w => some (c :: w, s.dropWhile isWordChar)

def char? (c : Char) : Text → Option Text
  | [] => none
  | d :: s => if d = c then some s else none

def quote? : Text → Option Text
  | [] => none
  | c :: s => if c = '"' ∨ c = '\'' then some s else none

theorem not_isBlank_of_isWordChar (h : isWordChar c = true) : isBlank c = false := by
  simp only [isWordChar, isBlank, inRanges, wordRanges, blankRanges, List.any_cons, List.any_nil,
    Bool.or_false, Bool.or_eq_true, Bool.and_eq_true, Bool.or_eq_false_iff, Bool.and_eq_false_iff,
    decide_eq_true_eq, decide_eq_false_iff_not] at h ⊢
  omega

theorem word?_append (hw : ∀ c ∈ w, isWordChar c = true) (hne : w ≠ [])
    (stop : ∀ c ∈ s.head?, isWordChar c = false) : word? (w ++ s) = some (w, s) := by
  have take : (w ++ s).takeWhile isWordChar = w := by
    rw [List.takeWhile_append_of_pos hw]
    cases s with
    | nil => simp
    | cons c s => simp [stop c (by simp)]
  have drop : (w ++ s).dropWhile isWordChar = s := by
    rw [List.dropWhile_append_of_pos hw]
    cases s with
    | nil => rfl
    | cons c s => simp [stop c (by simp)]
  rw [word?, take, drop]
  cases w with
  | nil => exact absurd rfl hne
  | cons c w => rfl

/-- A word is read up to the first character that cannot be in it. -/
theorem word?_eq_some (h : word? s = some (w, r)) :
    s = w ++ r ∧ w ≠ [] ∧ (∀ c ∈ w, isWordChar c = true) ∧ ∀ c ∈ r.head?, isWordChar c = false := by
  unfold word? at h
  split at h
  · cases h
  · next c v hv =>
    simp only [Option.some.injEq, Prod.mk.injEq] at h
    obtain ⟨rfl, rfl⟩ := h
    refine ⟨?_, by simp, ?_, ?_⟩
    · rw [← hv, List.takeWhile_append_dropWhile]
    · intro d hd
      rw [← hv] at hd
      exact (List.all_eq_true.mp List.all_takeWhile) d hd
    · intro d hd
      cases hr : s.dropWhile isWordChar with
      | nil => simp [hr] at hd
      | cons e r =>
        simp only [hr, List.head?_cons, Option.mem_some_iff] at hd
        subst hd
        have := List.head_dropWhile_not (p := isWordChar)
          (w := (by simp [hr] : s.dropWhile isWordChar ≠ []))
        simpa [hr] using this

end Descramble.Text
