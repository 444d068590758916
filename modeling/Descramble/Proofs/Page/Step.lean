import Descramble.Proofs.Json.Grammar
import Descramble.Proofs.Url.Segments
import Descramble.Proofs.Url.Unreserved

namespace Descramble.Page

open Json (Character Spelled)
open Text (Avoids)
open Url

variable {s t u : Text}

/-- Unreserved characters stand for themselves. -/
theorem spelled_append (h : s.all isUnreserved = true) (rest : Spelled t u) :
    Spelled (s ++ t) (s ++ u) := by
  induction s with
  | nil => exact rest
  | cons c s ih =>
    obtain ⟨hc, hs⟩ := Bool.and_eq_true_iff.mp (List.all_cons ▸ h)
    have other (p : Char → Bool)
        (table : ∀ n < 127, isUnreserved (Char.ofNat n) = true → p (Char.ofNat n) = false) :
        p c = false := not_of_isUnreserved table hc
    have quote : c ≠ '"' := by simpa using other (· == '"') (by decide)
    have backslash : c ≠ '\\' := by simpa using other (· == '\\') (by decide)
    have control : 32 ≤ c.toNat := by simpa using other (·.toNat < 32) (by decide)
    have whole := Spelled.cons (.plain quote backslash control) (ih hs)
    exact whole

/-- A segment behind a slash, which stands in a string as it is or as an escape. -/
inductive Step
  | plain (segment : PlainSegment)
  | escaped (segment : PlainSegment)

namespace Step

def segment : Step → PlainSegment
  | plain segment | escaped segment => segment

def isEscaped : Step → Bool
  | plain _ => false
  | escaped _ => true

def text : Step → Text
  | plain segment => '/' :: segment.text
  | escaped segment => '\\' :: '/' :: segment.text

/-- Both stand for the same characters. -/
theorem spelled (step : Step) (rest : Spelled t u) :
    Spelled ('/' :: step.segment.text ++ t) (step.text ++ u) := by
  have behind := spelled_append step.segment.passes rest
  cases step with
  | plain segment =>
    have slash : Character '/' ['/'] := .plain (by decide) (by decide) (by decide)
    have whole := Spelled.cons slash behind
    exact whole
  | escaped segment =>
    have escape : Character '/' ['\\', '/'] := .short (by decide)
    have whole := Spelled.cons escape behind
    exact whole

/-- What an address has for it: the backslash is a slash too, and nothing stands between the two. -/
def segments : Step → List Text
  | plain segment => [segment.text]
  | escaped segment => [[], segment.text]

variable (step : Step)

theorem avoids_text {p : Char → Bool} (backslash : p '\\' = false) (slash : p '/' = false)
    (h : ∀ segment : PlainSegment, Avoids p segment.text) : Avoids p step.text := by
  cases step with
  | plain segment => exact .cons slash (h segment)
  | escaped segment => exact .cons backslash (.cons slash (h segment))

theorem isSlash_head (rest : Text) :
    ∀ c ∈ (step.text ++ rest).head?, Family.special.isSlash c = true := by
  cases step <;> rintro c ⟨⟩ <;> rfl

theorem canonical : ∀ s ∈ step.segments, CanonicalSegment s := by
  cases step with
  | plain segment => exact List.forall_mem_singleton.mpr segment.canonical
  | escaped segment =>
    have last := List.forall_mem_singleton.mpr segment.canonical
    exact List.forall_mem_cons.mpr ⟨canonicalSegment_nil, last⟩

/-- Only an escape leaves an empty segment. -/
theorem nil_mem_segments_iff : [] ∈ step.segments ↔ step.isEscaped = true := by
  cases step with
  | plain segment =>
    have full : [] ∉ [segment.text] := by simpa using Ne.symm segment.nonempty
    exact iff_of_false full (by simp [isEscaped])
  | escaped segment => exact iff_of_true List.mem_cons_self rfl

theorem filter_segments : step.segments.filter (!·.isEmpty) = [step.segment.text] := by
  have full : (!step.segment.text.isEmpty) = true := by simpa using step.segment.nonempty
  cases step <;> simpa [segments, segment] using full

end Step

def spelledText (steps : List Step) : Text := steps.flatMap Step.text

def spelledSegments (steps : List Step) : List Text := steps.flatMap Step.segments

section

variable (steps : List Step)

theorem avoids_spelledText {p : Char → Bool} (backslash : p '\\' = false) (slash : p '/' = false)
    (h : ∀ segment : PlainSegment, Avoids p segment.text) : Avoids p (spelledText steps) := by
  intro c hc
  obtain ⟨step, -, hc⟩ := List.mem_flatMap.mp hc
  exact step.avoids_text backslash slash h c hc

theorem isSlash_head_spelledText :
    ∀ c ∈ (spelledText steps).head?, Family.special.isSlash c = true := by
  cases steps with
  | nil => simp [spelledText]
  | cons step steps => exact step.isSlash_head (spelledText steps)

theorem canonical_spelledSegments : ∀ s ∈ spelledSegments steps, CanonicalSegment s := by
  intro s hs
  obtain ⟨step, -, hs⟩ := List.mem_flatMap.mp hs
  exact step.canonical s hs

theorem spelled_spelledText :
    Spelled (steps.flatMap ('/' :: ·.segment.text)) (spelledText steps) := by
  induction steps with
  | nil => exact .nil
  | cons step steps ih => exact step.spelled ih

theorem pieces_spelledText (hs : Avoids Family.special.isSlash s) :
    Text.pieces Family.special.isSlash (s ++ spelledText steps) = s :: spelledSegments steps := by
  induction steps generalizing s with
  | nil => simpa [spelledText, spelledSegments] using Text.pieces_of_avoids hs
  | cons step steps ih =>
    cases step with
    | plain segment =>
      have split : s ++ spelledText (.plain segment :: steps) =
          s ++ '/' :: (segment.text ++ spelledText steps) := rfl
      rw [split, Text.pieces_append_of_avoids rfl hs, ih segment.whole]
      rfl
    | escaped segment =>
      have split : s ++ spelledText (.escaped segment :: steps) =
          s ++ '\\' :: ([] ++ '/' :: (segment.text ++ spelledText steps)) := rfl
      rw [split, Text.pieces_append_of_avoids rfl hs, Text.pieces_append_of_avoids rfl (.nil _),
        ih segment.whole]
      rfl

/-- Behind a segment the steps are read as segments that stay as they are. -/
theorem resolve_spelledText (hs : CanonicalSegment s) :
    resolve [] (segmentsOf .special (s ++ spelledText steps)) = s :: spelledSegments steps := by
  have canonical : ∀ piece ∈ s :: spelledSegments steps, CanonicalSegment piece :=
    List.forall_mem_cons.mpr ⟨hs, canonical_spelledSegments steps⟩
  have self : ∀ piece ∈ s :: spelledSegments steps, percentEncode escapedInPath piece = id piece :=
    fun piece hp => percentEncode_of_plain (canonical piece hp).escaped
  rw [segmentsOf, pieces_spelledText steps hs.whole, List.map_congr_left self, List.map_id,
    resolve_canonical canonical]
  rfl

/-- No segment is empty as long as no slash is escaped. -/
theorem nil_not_mem_spelledSegments_iff :
    [] ∉ spelledSegments steps ↔ ∀ step ∈ steps, step.isEscaped = false := by
  simp [spelledSegments, Step.nil_mem_segments_iff]

theorem filter_spelledSegments :
    (spelledSegments steps).filter (!·.isEmpty) = steps.map (·.segment.text) := by
  simp only [spelledSegments, List.filter_flatMap, Step.filter_segments]
  exact List.map_eq_flatMap.symm

end

end Descramble.Page
