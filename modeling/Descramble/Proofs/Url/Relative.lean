import Descramble.Proofs.Url.Canonical
import Descramble.Proofs.Url.Unreserved

namespace Descramble.Url

open Text (Avoids)

variable {s t rest scheme : Text} {c d : Char} {base : Address}

theorem isSlash_cases (h : Family.special.isSlash c = true) : c = '/' ∨ c = '\\' := by
  simpa [Family.isSlash, Family.isSpecial] using h

theorem isSlash_of_isOuter (h : isOuter c = false) : Family.special.isSlash c = false := by
  have ends := endsAuthority_of_isOuter h
  exact (Bool.or_eq_false_iff.mp (Bool.or_eq_false_iff.mp ends).1).1

theorem scheme?_cons_eq_none (h : c.isAlpha = false) (s : Text) : scheme? (c :: s) = none := by
  simp [scheme?, h]

/-- Without the marks of a query and a fragment all of a text is path. -/
theorem Tail.ofText_undivided (family : Family) (h : Undivided s) :
    Tail.ofText family s = ⟨s, none, none⟩ := by
  have cut (d : Char) (hd : isDelimiter d = true) : cutAt (· == d) s = (s, []) := by
    have avoids : Avoids (· == d) s :=
      Avoids.mono h fun c hc => by simpa using Text.ne_of_test hc hd
    simpa using cutAt_append avoids (t := []) (by simp)
  simp only [Tail.ofText, cut '#' rfl, cut '?' rfl]

theorem dropSlashes_cons (hc : Family.special.isSlash c = true) (s : Text) :
    dropSlashes (c :: s) = dropSlashes s :=
  List.dropWhile_cons_of_pos hc

theorem dropSlashes_eq_self (h : ∀ c ∈ s.head?, Family.special.isSlash c = false) :
    dropSlashes s = s := by
  cases s with
  | nil => rfl
  | cons c s => exact List.dropWhile_cons_of_neg (by simp [h c rfl])

namespace Address

def withPath (base : Address) (segments : List Text) : Address :=
  { base with path := .rooted segments, query := none, fragment := none }

/-- No scheme is in front of a slash. -/
theorem join_eq_relative (hc : Family.special.isSlash c = true) (inner : Avoids isMargin s) :
    base.join (c :: s) = base.relative (c :: s) := by
  have margin : isMargin c = false := by
    rcases isSlash_cases hc with rfl | rfl <;> rfl
  have letter : c.isAlpha = false := by
    rcases isSlash_cases hc with rfl | rfl <;> rfl
  rw [join, trimmed_eq_self (inner.cons margin), unbroken_eq_self (inner.cons margin),
    scheme?_cons_eq_none letter]

theorem relative_slash_cons (hc : Family.special.isSlash c = true) (s : Text) :
    base.relative (c :: s) =
      match s with
      | [] => .ok (relative.onPath base [] s)
      | d :: t =>
        if Family.special.isSlash d then
          withAuthority base.scheme (if c = '/' ∧ d = '/' then t else dropSlashes (c :: s))
        else .ok (relative.onPath base [] s) := by
  have other : ¬ (c = '?' ∨ c = '#') := by
    rcases isSlash_cases hc with rfl | rfl <;> decide
  rw [relative.eq_def]
  simp only [other, hc, if_true, if_false]
  cases s <;> rfl

theorem onPath_undivided (h : Undivided s) :
    relative.onPath base [] s = base.withPath (resolve [] (segmentsOf .special s)) := by
  rw [relative.onPath, Tail.ofText_undivided .special h]
  rfl

/-- A path behind one slash takes the place of the one that is there. -/
theorem join_slash (hc : Family.special.isSlash c = true)
    (first : ∀ d ∈ s.head?, Family.special.isSlash d = false) (inner : Avoids isMargin s)
    (h : Undivided s) :
    base.join (c :: s) = .ok (base.withPath (resolve [] (segmentsOf .special s))) := by
  rw [join_eq_relative hc inner, relative_slash_cons hc, ← onPath_undivided h]
  cases s with
  | nil => rfl
  | cons d s => simp only [first d rfl, Bool.false_eq_true, if_false]

/-- Behind two slashes, of whatever kind, stands an authority. -/
theorem relative_slashes (hc : Family.special.isSlash c = true)
    (hd : Family.special.isSlash d = true)
    (first : ∀ d ∈ s.head?, Family.special.isSlash d = false) :
    base.relative (c :: d :: s) = withAuthority base.scheme s := by
  have behind : dropSlashes (c :: d :: s) = s := by
    rw [dropSlashes_cons hc, dropSlashes_cons hd, dropSlashes_eq_self first]
  rw [relative_slash_cons hc]
  simp only [hd, if_true, behind, ite_self]

end Address

/-- A text without the marks of credentials, a port and brackets. -/
structure BareHost (s : Text) : Prop where
  full : s ≠ []
  inner : Avoids isOuter s
  at_not_mem : '@' ∉ s
  colon_not_mem : ':' ∉ s
  opening_not_mem : '[' ∉ s

namespace BareHost

theorem of_unreserved (full : s ≠ []) (h : s.all isUnreserved = true) : BareHost s := by
  have other (d : Char) (hd : isUnreserved d = false) : d ∉ s := by
    intro mem
    rw [List.all_eq_true.mp h d mem] at hd
    cases hd
  exact ⟨full, avoids_of_unreserved h (by decide), other '@' rfl, other ':' rfl, other '[' rfl⟩

theorem ofSegment (segment : PlainSegment) : BareHost segment.text :=
  .of_unreserved segment.nonempty segment.passes

theorem not_isSlash_head (h : BareHost s) (rest : Text) :
    ∀ c ∈ (s ++ rest).head?, Family.special.isSlash c = false := by
  cases s with
  | nil => exact absurd rfl h.full
  | cons c s =>
    rintro _ ⟨⟩
    exact isSlash_of_isOuter (h.inner c List.mem_cons_self)

end BareHost

/-- A host alone is an authority, in front of a path. -/
theorem authorityOf_bare (hs : familyOf scheme = .special) (h : BareHost s)
    (path : ∀ c ∈ rest.head?, Family.special.isSlash c = true) :
    authorityOf scheme (s ++ rest) = (Host.ofDomain s).map fun host => ({ host }, rest) := by
  have ends : ∀ c ∈ rest.head?, Family.special.endsAuthority c = true := by
    intro c hc
    rw [Family.endsAuthority, path c hc]
    rfl
  have inside : Avoids Family.special.endsAuthority s :=
    h.inner.mono fun _ => endsAuthority_of_isOuter
  have cut : cutAt Family.special.endsAuthority (s ++ rest) = (s, rest) :=
    cutAt_append inside ends
  have span : hostSpan .special false (s ++ rest) = (s, rest) := by
    rw [hostSpan_append inside h.colon_not_mem h.opening_not_mem,
      hostSpan_stop fun c hc => by rw [ends c hc, Bool.true_or], List.append_nil]
  have other : (s == ['@']) = false := by
    rw [beq_eq_false_iff_ne]
    rintro rfl
    exact h.at_not_mem List.mem_cons_self
  have nonempty : s.isEmpty = false := by simpa using h.full
  have read : hostOf .special s = Host.ofDomain s := by
    rw [hostOf]
    · rw [nonempty]
      rfl
    · simp
  simp only [authorityOf, hs, cut, Text.splitLast?_eq_none h.at_not_mem, Option.getD_none, other,
    span, read, bind, Except.bind, pure, Except.pure, Bool.false_and, Bool.false_eq_true, if_false]
  cases found : Host.ofDomain s with
  | error cause => rfl
  | ok host =>
    have isEmpty : host.isEmpty = false := (Host.canonical_ofDomain found).isEmpty
    cases rest with
    | nil =>
      simp only [isEmpty]
      rfl
    | cons c rest =>
      -- No port follows, because the path begins with a slash.
      rcases isSlash_cases (path c rfl) with rfl | rfl
      · simp only [isEmpty]
        rfl
      · simp only [isEmpty]
        rfl

/-- The address of a host and a path. -/
theorem withAuthority_bare (hs : familyOf scheme = .special) (h : BareHost s)
    (path : ∀ c ∈ rest.head?, Family.special.isSlash c = true) (hr : Undivided rest) :
    withAuthority scheme (s ++ rest) = (Host.ofDomain s).map fun host =>
      ⟨scheme, some { host },
        .rooted (resolve [] (segmentsOf .special (dropSlash .special rest))), none, none⟩ := by
  have other : ¬ (Family.special = .other ∧ rest.isEmpty = true) := by simp
  simp only [withAuthority, authorityOf_bare hs h path, hs,
    bind, Except.bind]
  cases Host.ofDomain s with
  | error cause => rfl
  | ok host =>
    simp only [Except.map, Tail.ofText_undivided .special hr, other, if_false]
    rfl

/-- Behind two slashes the host comes first, and the path that follows it is resolved. -/
theorem Address.join_slashes (hs : familyOf base.scheme = .special)
    (hc : Family.special.isSlash c = true) (hd : Family.special.isSlash d = true) (h : BareHost s)
    (path : ∀ c ∈ rest.head?, Family.special.isSlash c = true) (inner : Avoids isMargin rest)
    (hr : Undivided rest) :
    base.join (c :: d :: (s ++ rest)) = (Host.ofDomain s).map fun host =>
      ⟨base.scheme, some { host },
        .rooted (resolve [] (segmentsOf .special (dropSlash .special rest))), none, none⟩ := by
  have margin : isMargin d = false := by
    rcases isSlash_cases hd with rfl | rfl <;> rfl
  have outside : Avoids isMargin (d :: (s ++ rest)) :=
    .cons margin ((h.inner.mono fun _ => isMargin_of_isOuter).append inner)
  rw [join_eq_relative hc outside, relative_slashes hc hd (h.not_isSlash_head rest),
    withAuthority_bare hs h path hr]

end Descramble.Url
