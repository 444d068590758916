import Descramble.Proofs.Url.Authority

namespace Descramble.Url

open Text (Avoids)

variable {s : Text} {c : Char}

def unreservedRanges : List (Nat × Nat) :=
  [(45, 46), (48, 57), (65, 90), (95, 95), (97, 122), (126, 126)]

def isUnreserved (c : Char) : Bool := Text.inRanges unreservedRanges c

theorem lt_of_isUnreserved (h : isUnreserved c = true) : c.toNat < 127 := by
  simp only [isUnreserved, Text.inRanges, unreservedRanges, List.any_cons, List.any_nil,
    Bool.or_false, Bool.or_eq_true, Bool.and_eq_true, decide_eq_true_eq] at h
  omega

/-- A test that no unreserved character passes is looked up for each of them. -/
theorem not_of_isUnreserved {p : Char → Bool}
    (table : ∀ n < 127, isUnreserved (Char.ofNat n) = true → p (Char.ofNat n) = false)
    (h : isUnreserved c = true) : p c = false := by
  have here := table c.toNat (lt_of_isUnreserved h)
  rw [Char.ofNat_toNat] at here
  exact here h

theorem avoids_of_unreserved {p : Char → Bool} (h : s.all isUnreserved = true)
    (table : ∀ n < 127, isUnreserved (Char.ofNat n) = true → p (Char.ofNat n) = false) :
    Avoids p s :=
  fun c hc => not_of_isUnreserved table (List.all_eq_true.mp h c hc)

theorem dot?_eq_some (plain : '%' ∉ s) (h : dot? s = some r) : s = '.' :: r := by
  unfold dot? at h
  split at h
  · cases h
    rfl
  · exact absurd List.mem_cons_self plain
  · exact absurd List.mem_cons_self plain
  · cases h

/-- A segment that stands in addresses as it is. -/
structure PlainSegment extends Text.Span isUnreserved where
  notDot : text ≠ ['.'] := by decide
  notDoubleDot : text ≠ ['.', '.'] := by decide

namespace PlainSegment

variable (segment : PlainSegment)

theorem inner : Avoids isMargin segment.text := avoids_of_unreserved segment.passes (by decide)

theorem whole : Avoids Family.special.isSlash segment.text :=
  avoids_of_unreserved segment.passes (by decide)

theorem unquoted : Avoids (· == '"') segment.text :=
  avoids_of_unreserved segment.passes (by decide)

theorem undivided : Undivided segment.text :=
  avoids_of_unreserved segment.passes (by decide)

theorem canonical : CanonicalSegment segment.text := by
  have plain : '%' ∉ segment.text := segment.not_mem rfl
  refine ⟨avoids_of_unreserved segment.passes (by decide), segment.whole, ?_, ?_⟩
  · refine beq_eq_false_iff_ne.mpr fun dot => ?_
    exact segment.notDot (dot?_eq_some plain dot)
  · refine beq_eq_false_iff_ne.mpr fun dots => ?_
    obtain ⟨r, first, second⟩ := Option.bind_eq_some_iff.mp dots
    have split := dot?_eq_some plain first
    have rest : '%' ∉ r := fun mem => plain (split ▸ List.mem_cons_of_mem _ mem)
    rw [dot?_eq_some rest second] at split
    exact segment.notDoubleDot split

end PlainSegment

end Descramble.Url
