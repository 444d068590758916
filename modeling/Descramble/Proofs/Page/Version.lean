import Mathlib.Data.List.TakeWhile
import Descramble.Page.Version
import Descramble.Proofs.Text.Gap
import Descramble.Proofs.Text.Pieces
import Descramble.Proofs.Text.Position

namespace Descramble.Page

open Text (First Gap)

variable {html s stop u v rest : Text} {i : Nat}

/-- The text ends at the nearest `stop`, which stands on the same line. -/
structure EndsAt (stop s v : Text) : Prop where
  ends : ∃ behind, s = v ++ (stop ++ behind)
  line : '\n' ∉ v
  nearest : ∀ j < v.length, ¬ stop <+: s.drop j

theorem endsAt_nil : EndsAt stop s [] ↔ stop <+: s := by
  constructor
  · intro h
    obtain ⟨behind, rfl⟩ := h.ends
    exact List.prefix_append stop behind
  · intro front
    obtain ⟨behind, rfl⟩ := front
    exact ⟨⟨behind, rfl⟩, List.not_mem_nil, fun j hj => absurd hj (Nat.not_lt_zero j)⟩

/-- A character that begins no end of its own stands in front of the nearest one. -/
theorem endsAt_cons : EndsAt stop (c :: s) (d :: v) ↔
    ¬ stop <+: c :: s ∧ c ≠ '\n' ∧ c = d ∧ EndsAt stop s v := by
  constructor
  · intro h
    obtain ⟨behind, split⟩ := h.ends
    obtain ⟨rfl, rest⟩ : c = d ∧ s = v ++ (stop ++ behind) := List.cons.inj split
    have line := h.line
    rw [List.mem_cons, not_or] at line
    refine ⟨h.nearest 0 (Nat.succ_pos _), Ne.symm line.1, rfl, ⟨behind, rest⟩, line.2, ?_⟩
    intro j hj
    exact h.nearest (j + 1) (Nat.succ_lt_succ hj)
  · intro h
    obtain ⟨first, line, rfl, ⟨behind, rfl⟩, line', nearest⟩ := h
    refine ⟨⟨behind, rfl⟩, by simp [line', Ne.symm line], ?_⟩
    intro j hj
    cases j with
    | zero => exact first
    | succ j => exact nearest j (Nat.lt_of_succ_lt_succ hj)

/-- The text is cut at the nearest end, and only on its own line. -/
theorem upToOnLine?_eq_some_iff : upToOnLine? stop s = some v ↔ EndsAt stop s v := by
  induction s generalizing v with
  | nil =>
    cases v with
    | nil => simp [upToOnLine?, endsAt_nil]
    | cons d v =>
      refine iff_of_false (by simp [upToOnLine?]) ?_
      intro h
      obtain ⟨behind, split⟩ := h.ends
      cases split
  | cons c s ih =>
    rw [upToOnLine?]
    by_cases front : stop <+: c :: s
    · rw [if_pos (List.isPrefixOf_iff_prefix.mpr front)]
      cases v with
      | nil => simp [endsAt_nil, front]
      | cons d v => simp [endsAt_cons, front]
    · rw [if_neg fun h => front (List.isPrefixOf_iff_prefix.mp h)]
      cases v with
      | nil =>
        split <;> simp [endsAt_nil, front]
      | cons d v =>
        split
        · next line => simp [endsAt_cons, line]
        · next line => simp [endsAt_cons, front, line, ih, and_comm]

def ending : Text := "/base.js".toList

/-- From this position of the page stands a script tag, up to where a path of the older layout names
the version. -/
def OpensAt (html : Text) (i : Nat) (rest : Text) : Prop :=
  ∃ gap : Gap,
    html.drop i = scriptTag ++ (gap.text ++ ("src=\"/yts/jsbin/player-".toList ++ rest))

/-- Behind such a tag the ending follows on the line, and `v` is what stands in front of the nearest
one. -/
def TaggedAt (html : Text) (i : Nat) (v : Text) : Prop :=
  ∃ rest, OpensAt html i rest ∧ EndsAt ending rest v

/-- From this position of the page stands a path of the newer layout. -/
def PathAt (html : Text) (i : Nat) (v : Text) : Prop :=
  v ≠ [] ∧ (∀ c ∈ v, isVersionChar c = true) ∧
    ∃ rest, html.drop i = "/s/player/".toList ++ (v ++ '/' :: rest)

def Blank (v : Text) : Prop := ∀ c ∈ v, Text.isBlank c = true

theorem skipBlank_isEmpty_iff : (Text.skipBlank v).isEmpty = true ↔ Blank v := by
  rw [List.isEmpty_iff, Text.skipBlank, List.dropWhile_eq_nil_iff, Blank]

theorem skipBlank_source (gap : Gap) (rest : Text) :
    Text.skipBlank (gap.text ++ ("src=\"/yts/jsbin/player-".toList ++ rest)) =
      "src=\"/yts/jsbin/player-".toList ++ rest := by
  rw [Text.skipBlank_append gap.forall_mem]
  exact Text.skipBlank_eq_self (by simp +decide)

theorem taggedVersionAt?_drop_iff :
    taggedVersionAt? (html.drop i) = some v ↔ TaggedAt html i v := by
  constructor
  · intro found
    obtain ⟨s, tag, found⟩ := Option.bind_eq_some_iff.mp found
    obtain ⟨rest, source, found⟩ := Option.bind_eq_some_iff.mp found
    obtain ⟨gap, split⟩ := Text.isPrefixOf?_exists_gap source
    have tag := List.isPrefixOf?_eq_some_iff_append_eq.mp tag
    exact ⟨rest, ⟨gap, by rw [← tag, split]⟩, upToOnLine?_eq_some_iff.mp found⟩
  · intro written
    obtain ⟨rest, ⟨gap, split⟩, ends⟩ := written
    simp only [split, taggedVersionAt?, Text.isPrefixOf?_append, Option.bind_eq_bind,
      Option.bind_some, skipBlank_source]
    exact upToOnLine?_eq_some_iff.mpr ends

theorem takeWhile_version (version : ∀ c ∈ v, isVersionChar c = true) (rest : Text) :
    (v ++ '/' :: rest).takeWhile isVersionChar = v ∧
      (v ++ '/' :: rest).dropWhile isVersionChar = '/' :: rest := by
  have slash : ¬ isVersionChar '/' = true := by decide
  rw [List.takeWhile_append_of_pos version, List.dropWhile_append_of_pos version,
    List.takeWhile_cons_of_neg slash, List.dropWhile_cons_of_neg slash, List.append_nil]
  exact ⟨rfl, rfl⟩

theorem pathVersionAt?_drop_iff : pathVersionAt? (html.drop i) = some v ↔ PathAt html i v := by
  constructor
  · intro found
    obtain ⟨s, path, found⟩ := Option.bind_eq_some_iff.mp found
    obtain ⟨rest, slash, found⟩ := Option.bind_eq_some_iff.mp found
    have path := List.isPrefixOf?_eq_some_iff_append_eq.mp path
    have whole : s.takeWhile isVersionChar ++ s.dropWhile isVersionChar = s :=
      List.takeWhile_append_dropWhile
    rw [Option.ite_none_left_eq_some, Option.some.injEq, List.isEmpty_iff] at found
    obtain ⟨nonempty, rfl⟩ := found
    refine ⟨nonempty, List.all_eq_true.mp List.all_takeWhile, rest, ?_⟩
    rw [← Text.char?_eq_some slash, whole, path]
  · intro written
    obtain ⟨nonempty, version, rest, split⟩ := written
    obtain ⟨take, drop⟩ := takeWhile_version version rest
    have filled : v.isEmpty = false := by simpa using nonempty
    simp only [split, pathVersionAt?, Text.isPrefixOf?_append, Option.bind_eq_bind,
      Option.bind_some, take, drop, Text.char?, if_true, filled]
    rfl

theorem leftmost_tagged_iff :
    Text.leftmost taggedVersionAt? html = some v ↔ First (TaggedAt html) v := by
  rw [Text.leftmost_eq_some_iff_first]
  simp only [taggedVersionAt?_drop_iff]

theorem leftmost_path_iff :
    Text.leftmost pathVersionAt? html = some v ↔ First (PathAt html) v := by
  rw [Text.leftmost_eq_some_iff_first]
  simp only [pathVersionAt?_drop_iff]

theorem leftmost_path_none_iff :
    Text.leftmost pathVersionAt? html = none ↔ ∀ i v, ¬ PathAt html i v := by
  rw [Text.leftmost_eq_none_iff_forall]
  simp only [ne_eq, pathVersionAt?_drop_iff]

theorem newer_eq_ok_iff : version.newer html = .ok v ↔ First (PathAt html) v := by
  rw [← leftmost_path_iff, version.newer]
  cases Text.leftmost pathVersionAt? html <;> simp

theorem newer_eq_error_iff :
    version.newer html = .error fault ↔ (∀ i v, ¬ PathAt html i v) ∧ fault = .versionNotFound := by
  rw [← leftmost_path_none_iff, version.newer]
  cases Text.leftmost pathVersionAt? html <;> simp [eq_comm]

/-- The older layout decides if it names a version that is not blank, and else the newer one. -/
theorem version_cases (html : Text) :
    (∃ v, First (TaggedAt html) v ∧ ¬ Blank v ∧ version html = .ok v) ∨
      (∀ v, First (TaggedAt html) v → Blank v) ∧ version html = version.newer html := by
  simp only [← leftmost_tagged_iff, ← skipBlank_isEmpty_iff]
  rw [version]
  cases Text.leftmost taggedVersionAt? html with
  | none => exact .inr ⟨nofun, rfl⟩
  | some v =>
    cases blank : (Text.skipBlank v).isEmpty with
    | false => exact .inl ⟨v, rfl, by simp [blank], by simp [blank]⟩
    | true =>
      refine .inr ⟨?_, by simp [blank]⟩
      intro u found
      rw [← Option.some.inj found, blank]

theorem First.tagged_unique (h : First (TaggedAt html) u) (h' : First (TaggedAt html) v) :
    u = v :=
  Option.some.inj ((leftmost_tagged_iff.mpr h).symm.trans (leftmost_tagged_iff.mpr h'))

/-- The older layout counts first, unless its version is blank or absent. -/
theorem version_eq_ok_iff : version html = .ok v ↔ First (TaggedAt html) v ∧ ¬ Blank v ∨
    (∀ u, First (TaggedAt html) u → Blank u) ∧ First (PathAt html) v := by
  obtain ⟨w, first, filled, found⟩ | ⟨blank, found⟩ := version_cases html
  · rw [found, Except.ok.injEq]
    constructor
    · intro same
      exact .inl (same ▸ ⟨first, filled⟩)
    · intro named
      obtain ⟨first', -⟩ | ⟨blank, -⟩ := named
      · exact First.tagged_unique first first'
      · exact absurd (blank w first) filled
  · rw [found, newer_eq_ok_iff]
    constructor
    · intro path
      exact .inr ⟨blank, path⟩
    · intro named
      obtain ⟨first, filled⟩ | ⟨-, path⟩ := named
      · exact absurd (blank v first) filled
      · exact path

/-- There is no version exactly if neither layout has one that counts. -/
theorem version_eq_error_iff : version html = .error fault ↔
    (∀ u, First (TaggedAt html) u → Blank u) ∧ (∀ i v, ¬ PathAt html i v) ∧
      fault = .versionNotFound := by
  obtain ⟨w, first, filled, found⟩ | ⟨blank, found⟩ := version_cases html
  · rw [found]
    refine iff_of_false (by simp) ?_
    intro nothing
    exact filled (nothing.1 w first)
  · rw [found, newer_eq_error_iff]
    exact (and_iff_right blank).symm

/-- The version is what stands in front of the nearest ending behind the first tag of the older
layout that has one on its line. If there is no such tag, or only blanks stand there, it is the one
of the first path of the newer layout; without one there is no version. -/
theorem version_exact (html : Text) :
    ((∃ v, First (TaggedAt html) v) ↔ ∃ i v, TaggedAt html i v) ∧
    (∀ v, version html = .ok v ↔ First (TaggedAt html) v ∧ ¬ Blank v ∨
      (∀ u, First (TaggedAt html) u → Blank u) ∧ First (PathAt html) v) ∧
    ∀ fault, version html = .error fault ↔ (∀ u, First (TaggedAt html) u → Blank u) ∧
      (∀ i v, ¬ PathAt html i v) ∧ fault = .versionNotFound :=
  ⟨Text.exists_first_iff, fun _ => version_eq_ok_iff, fun _ => version_eq_error_iff⟩

/-- The first tag has no ending on its line, and the second one no version. -/
example : version ("<script src=\"/yts/jsbin/player-a.js\">\n<script\n".toList ++
    "src=\"/yts/jsbin/player-/base.js\">/s/player//s/player/b-1/base.js".toList) =
    .ok "b-1".toList := by decide

end Descramble.Page
