import Descramble.Proofs.Url.Percent
import Descramble.Url.Basic
import Descramble.Url.Segments

namespace Descramble.Url

open Text (Avoids)

theorem Path.avoids_text {p : Char → Bool} (slash : p '/' = false) (h : ∀ s ∈ ss, Avoids p s) :
    Avoids p (Path.rooted ss).text := by
  intro c hc
  obtain ⟨s, hs, hc⟩ := List.mem_flatMap.mp hc
  exact (h s hs).cons slash c hc

/-- Where a path follows a text without slashes, both are known from the whole. -/
theorem Path.append_text_inj {a b : Text} (ha : Avoids Family.special.isSlash a)
    (hb : Avoids Family.special.isSlash b) (hss : ∀ s ∈ ss, Avoids Family.special.isSlash s)
    (hts : ∀ t ∈ ts, Avoids Family.special.isSlash t)
    (h : a ++ (Path.rooted ss).text = b ++ (Path.rooted ts).text) : a = b ∧ ss = ts := by
  have slash : Family.special.isSlash '/' = true := rfl
  have pieces := congrArg (Text.pieces Family.special.isSlash) h
  rw [Path.text, Path.text, Text.pieces_flatMap slash ha hss, Text.pieces_flatMap slash hb hts]
    at pieces
  exact List.cons.inj pieces

/-- A segment that reading a path neither escapes nor parts nor resolves. -/
structure CanonicalSegment (s : Text) : Prop where
  escaped : Avoids escapedInPath s
  whole : Avoids Family.special.isSlash s
  notDot : isDot s = false
  notDoubleDot : isDoubleDot s = false

theorem canonicalSegment_nil : CanonicalSegment [] := ⟨.nil _, .nil _, rfl, rfl⟩

/-- Canonical segments are taken as they are, behind those that are there. -/
theorem resolve_canonical (h : ∀ s ∈ ss, CanonicalSegment s) (path : List Text) :
    resolve path ss = path.reverse ++ ss := by
  induction ss generalizing path with
  | nil => simp [resolve]
  | cons s ss ih =>
    obtain ⟨hs, hss⟩ := List.forall_mem_cons.mp h
    rw [resolve]
    simp only [hs.notDot, hs.notDoubleDot, Bool.false_eq_true, if_false]
    rw [ih hss, List.reverse_cons, List.append_assoc, List.singleton_append]

/-- A path has its own segments. -/
theorem segmentsOf_text (hne : ss ≠ []) (h : ∀ s ∈ ss, CanonicalSegment s) :
    segmentsOf .special (dropSlash .special (Path.rooted ss).text) = ss := by
  cases ss with
  | nil => contradiction
  | cons s ss =>
    have whole : ∀ piece ∈ s :: ss, Avoids Family.special.isSlash piece :=
      fun piece hp => (h piece hp).whole
    obtain ⟨first, rest⟩ := List.forall_mem_cons.mp whole
    have behind : dropSlash .special (Path.rooted (s :: ss)).text =
        s ++ ss.flatMap ('/' :: ·) := rfl
    have self : ∀ piece ∈ s :: ss, percentEncode escapedInPath piece = id piece :=
      fun piece hp => percentEncode_of_plain (h piece hp).escaped
    rw [behind, segmentsOf, Text.pieces_flatMap rfl first rest, List.map_congr_left self,
      List.map_id]

theorem resolve_segmentsOf_text (hne : ss ≠ []) (h : ∀ s ∈ ss, CanonicalSegment s) :
    resolve [] (segmentsOf .special (dropSlash .special (Path.rooted ss).text)) = ss := by
  rw [segmentsOf_text hne h, resolve_canonical h, List.reverse_nil, List.nil_append]

section

variable {P : Text → Prop}

theorem parent_subset (path : List Text) : parent path ⊆ path := by
  cases path with
  | nil => exact List.Subset.refl []
  | cons s ss =>
    rw [parent]
    split
    · exact List.Subset.refl _
    · exact List.subset_cons_self s ss

theorem forall_mem_parent (hp : ∀ s ∈ path, P s) : ∀ s ∈ parent path, P s :=
  fun s hs => hp s (parent_subset path hs)

/-- A dot segment at the end leaves an empty one. -/
theorem forall_mem_last (empty : P []) (hp : ∀ s ∈ path, P s) (atEnd : Bool) :
    ∀ s ∈ (if atEnd then [] :: path else path), P s := by
  cases atEnd with
  | false => exact hp
  | true => exact List.forall_mem_cons.mpr ⟨empty, hp⟩

/-- Besides empty ones, a resolved path has segments that were there and are no dots. -/
theorem forall_mem_resolve (empty : P []) (hp : ∀ s ∈ path, P s)
    (hss : ∀ s ∈ ss, isDot s = false → isDoubleDot s = false → P s) :
    ∀ s ∈ resolve path ss, P s := by
  induction ss generalizing path with
  | nil => exact fun s hs => hp s (List.mem_reverse.mp hs)
  | cons s ss ih =>
    obtain ⟨hs, hss⟩ := List.forall_mem_cons.mp hss
    rw [resolve]
    split
    · exact ih (forall_mem_last empty (forall_mem_parent hp) ss.isEmpty) hss
    split
    · exact ih (forall_mem_last empty hp ss.isEmpty) hss
    next double single =>
      have kept : P s := hs (by simpa using single) (by simpa using double)
      exact ih (List.forall_mem_cons.mpr ⟨kept, hp⟩) hss

end

/-- Dot segments at the end leave an empty one, so a path never comes to nothing. -/
theorem resolve_ne_nil (hss : ss ≠ []) (path : List Text) : resolve path ss ≠ [] := by
  induction ss generalizing path with
  | nil => contradiction
  | cons s ss ih =>
    cases ss with
    | nil =>
      simp only [resolve, List.isEmpty_nil, if_true]
      split
      · simp
      · split <;> simp
    | cons t ss =>
      have rest := ih (by simp)
      rw [resolve]
      split
      · exact rest _
      · split
        · exact rest _
        · exact rest _

theorem isSlash_hexDigit : ∀ n < 16, Family.special.isSlash (hexDigit n) = false := by decide

theorem segmentsOf_ne_nil (family : Family) (s : Text) : segmentsOf family s ≠ [] :=
  fun empty => Text.pieces_ne_nil _ s (List.map_eq_nil_iff.mp empty)

theorem avoids_segmentsOf (s : Text) :
    ∀ segment ∈ segmentsOf .special s,
      Avoids escapedInPath segment ∧ Avoids Family.special.isSlash segment := by
  intro segment hs
  obtain ⟨piece, hp, rfl⟩ := List.mem_map.mp hs
  refine ⟨avoids_escapedInPath piece, ?_⟩
  intro c hc
  rcases mem_percentEncode hc with ⟨hc, -⟩ | rfl | ⟨n, hn, rfl⟩
  · exact Text.pieces_avoid _ s piece hp c hc
  · rfl
  · exact isSlash_hexDigit n hn

/-- The segments of any path are canonical once they are resolved. -/
theorem canonical_resolve (s : Text) :
    ∀ segment ∈ resolve [] (segmentsOf .special s), CanonicalSegment segment := by
  have empty : CanonicalSegment [] := ⟨.nil _, .nil _, rfl, rfl⟩
  refine forall_mem_resolve empty (by simp) ?_
  intro segment hs single double
  obtain ⟨escaped, whole⟩ := avoids_segmentsOf s segment hs
  exact ⟨escaped, whole, single, double⟩

end Descramble.Url
