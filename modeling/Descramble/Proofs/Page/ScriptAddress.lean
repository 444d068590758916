import Descramble.Proofs.Page.SitePath
import Descramble.Proofs.Page.Version

namespace Descramble.Page

open Text (First Gap)
open Url

variable {html v : Text} {i : Nat}

/-- From this position of the page stands a `jsUrl` field with a value. -/
def FieldAt (html : Text) (i : Nat) (v : Text) : Prop :=
  v ≠ [] ∧ '"' ∉ v ∧ ∃ rest, html.drop i = "\"jsUrl\":\"".toList ++ (v ++ '"' :: rest)

/-- From this position of the page stands a script tag whose source ends as those of player scripts
do. -/
def TagAt (html : Text) (i : Nat) (v : Text) : Prop :=
  '"' ∉ v ∧ ending <:+ v ∧ ∃ (gap : Gap) (rest : Text),
    html.drop i = scriptTag ++ (gap.text ++ ("src=\"".toList ++ (v ++ '"' :: rest)))

/-- The tag's source has something in front of that ending. -/
def PlayerTagAt (html : Text) (i : Nat) (v : Text) : Prop := TagAt html i v ∧ v ≠ ending

theorem nonempty?_eq_some_iff : nonempty? s = some v ↔ s ≠ [] ∧ s = v := by
  rw [nonempty?, Option.ite_none_left_eq_some, List.isEmpty_iff, Option.some.injEq]

/-- A field is found exactly where one stands. -/
theorem fieldAt?_drop_iff : fieldAt? (html.drop i) = some v ↔ FieldAt html i v := by
  constructor
  · intro found
    obtain ⟨s, name, found⟩ := Option.bind_eq_some_iff.mp found
    obtain ⟨⟨value, rest⟩, quoted, found⟩ := Option.bind_eq_some_iff.mp found
    obtain ⟨nonempty, rfl⟩ := nonempty?_eq_some_iff.mp found
    obtain ⟨rfl, unquoted⟩ := Text.upTo?_eq_some quoted
    exact ⟨nonempty, unquoted, rest, (List.isPrefixOf?_eq_some_iff_append_eq.mp name).symm⟩
  · intro written
    obtain ⟨nonempty, unquoted, rest, split⟩ := written
    simp only [split, fieldAt?, Text.isPrefixOf?_append, Text.upTo?_append unquoted,
      Option.bind_eq_bind, Option.bind_some]
    exact nonempty?_eq_some_iff.mpr ⟨nonempty, rfl⟩

/-- A tag is found exactly where one stands that has something in front of its ending. -/
theorem tagAt?_drop_iff : tagAt? (html.drop i) = some v ↔ PlayerTagAt html i v := by
  constructor
  · intro found
    obtain ⟨s, tag, found⟩ := Option.bind_eq_some_iff.mp found
    obtain ⟨t, source, found⟩ := Option.bind_eq_some_iff.mp found
    obtain ⟨⟨value, rest⟩, quoted, found⟩ := Option.bind_eq_some_iff.mp found
    obtain ⟨stem, ends, found⟩ := Option.bind_eq_some_iff.mp found
    obtain ⟨_, full, found⟩ := Option.bind_eq_some_iff.mp found
    obtain rfl := Option.some.inj found
    obtain ⟨gap, rfl⟩ := Text.isPrefixOf?_exists_gap source
    obtain ⟨rfl, unquoted⟩ := Text.upTo?_eq_some quoted
    obtain rfl := List.isSuffixOf?_eq_some_iff_append_eq.mp ends
    have tag := List.isPrefixOf?_eq_some_iff_append_eq.mp tag
    obtain ⟨nonempty, -⟩ := nonempty?_eq_some_iff.mp full
    refine ⟨⟨unquoted, List.suffix_append stem ending, gap, rest, tag.symm⟩, ?_⟩
    exact fun same => nonempty (List.append_left_eq_self.mp same)
  · intro written
    obtain ⟨⟨unquoted, ⟨stem, rfl⟩, gap, rest, split⟩, other⟩ := written
    have nonempty : stem ≠ [] := fun bare => other (by rw [bare, List.nil_append])
    have source (s : Text) : Text.skipBlank (gap.text ++ ("src=\"".toList ++ s)) =
        "src=\"".toList ++ s := gap.skipBlank_mark rfl _
    have ends : "/base.js".toList.isSuffixOf? (stem ++ ending) = some stem :=
      List.isSuffixOf?_eq_some_iff_append_eq.mpr rfl
    have full : nonempty? stem = some stem := nonempty?_eq_some_iff.mpr ⟨nonempty, rfl⟩
    simp only [split, tagAt?, Text.isPrefixOf?_append, source, Text.upTo?_append unquoted, ends,
      full, Option.bind_eq_bind, Option.bind_some]
    rfl

theorem leftmost_field_iff :
    Text.leftmost fieldAt? html = some v ↔ First (FieldAt html) v := by
  rw [Text.leftmost_eq_some_iff_first]
  simp only [fieldAt?_drop_iff]

theorem leftmost_field_none_iff :
    Text.leftmost fieldAt? html = none ↔ ∀ i v, ¬ FieldAt html i v := by
  rw [Text.leftmost_eq_none_iff_forall]
  simp only [ne_eq, fieldAt?_drop_iff]

theorem leftmost_playerTag_iff :
    Text.leftmost tagAt? html = some v ↔ First (PlayerTagAt html) v := by
  rw [Text.leftmost_eq_some_iff_first]
  simp only [tagAt?_drop_iff]

/-- A field comes before all tags. -/
theorem source?_eq_some_iff : source? html = some v ↔
    First (FieldAt html) v ∨ (∀ i u, ¬ FieldAt html i u) ∧ First (PlayerTagAt html) v := by
  rw [source?, Option.or_eq_some_iff, leftmost_field_iff, leftmost_field_none_iff,
    leftmost_playerTag_iff]

theorem scriptAddress_of_join (found : source? html = some v) (joined : site.join v = .ok u) :
    scriptAddress html = .ok u.text := by
  simp only [scriptAddress, found, joined]

def origin : Text := "https://www.youtube.com".toList

theorem scriptAddress_of_path (found : source? html = some (SitePath.text p)) :
    scriptAddress html = .ok (origin ++ p.text) := by
  rw [scriptAddress_of_join found (join_path p), text_secureAddress]
  rfl

theorem scriptAddress_of_host (h : HostName)
    (found : source? html = some ("//".toList ++ (h.text ++ SitePath.text p))) :
    scriptAddress html = .ok ("https://".toList ++ (h.text ++ p.text)) := by
  rw [scriptAddress_of_join found (join_host p h), text_secureAddress]
  rfl

/-- A site's path is found in the first field of the page, or if there is none in the first tag of a
player script, and becomes an address on the site as it is. So does a path behind a host become an
address on that host. -/
theorem scriptAddress_sitePath (html : Text) (p : SitePath) :
    (First (FieldAt html) p.text → scriptAddress html = .ok (origin ++ p.text)) ∧
    (∀ h : HostName, First (FieldAt html) ("//".toList ++ (h.text ++ p.text)) →
      scriptAddress html = .ok ("https://".toList ++ (h.text ++ p.text))) ∧
    ((∀ i v, ¬ FieldAt html i v) → First (PlayerTagAt html) p.text →
      scriptAddress html = .ok (origin ++ p.text)) := by
  refine ⟨?_, ?_, ?_⟩
  · intro field
    exact scriptAddress_of_path (source?_eq_some_iff.mpr (.inl field))
  · intro h field
    exact scriptAddress_of_host h (source?_eq_some_iff.mpr (.inl field))
  · intro fieldless tag
    exact scriptAddress_of_path (source?_eq_some_iff.mpr (.inr ⟨fieldless, tag⟩))

def shortPath : SitePath where
  first := { text := "s".toList }
  rest := [{ text := "~x_1".toList }, { text := "base.js".toList }]

/-- Tags do not count beside a field, and one that has only the ending for its source never does. -/
theorem scriptAddress_sitePath_pages :
    let field := "<script src=\"/t/base.js\">\"jsUrl\":\"/s/~x_1/base.js\"\"jsUrl\":\"/u\"".toList
    let onHost := "\"jsUrl\":\"\",\"jsUrl\":\"//a.b/s/~x_1/base.js\"".toList
    let tags := "<script src=\"/base.js\"><script\n src=\"/s/~x_1/base.js\"".toList
    scriptAddress field = .ok "https://www.youtube.com/s/~x_1/base.js".toList ∧
    scriptAddress onHost = .ok "https://a.b/s/~x_1/base.js".toList ∧
    scriptAddress tags = .ok "https://www.youtube.com/s/~x_1/base.js".toList := by
  intro field onHost tags
  let h : HostName := ⟨{ text := "a".toList }, [{ text := "b".toList }]⟩
  have inField : First (FieldAt field) shortPath.text := leftmost_field_iff.mp (by decide)
  have behindHost : First (FieldAt onHost) ("//".toList ++ (h.text ++ shortPath.text)) :=
    leftmost_field_iff.mp (by decide)
  have fieldless : ∀ i v, ¬ FieldAt tags i v := leftmost_field_none_iff.mp (by decide)
  have inTag : First (PlayerTagAt tags) shortPath.text := leftmost_playerTag_iff.mp (by decide)
  exact ⟨(scriptAddress_sitePath field shortPath).1 inField,
    (scriptAddress_sitePath onHost shortPath).2.1 h behindHost,
    (scriptAddress_sitePath tags shortPath).2.2 fieldless inTag⟩

/-- The ending alone is a path as well, but a tag that has it for its source is passed over. -/
theorem scriptAddress_ending_alone :
    let html := "<script src=\"/base.js\"></script>".toList
    let p : SitePath := ⟨{ text := "base.js".toList }, []⟩
    (∀ i v, ¬ FieldAt html i v) ∧ First (TagAt html) p.text ∧
      scriptAddress html = .error .versionNotFound ∧
      scriptAddress html ≠ .ok (origin ++ p.text) := by
  intro html p
  have tag : TagAt html 0 p.text :=
    ⟨by decide, List.suffix_refl _, ⟨[' '], rfl⟩, "></script>".toList, rfl⟩
  have missed : scriptAddress html = .error .versionNotFound := by decide
  refine ⟨leftmost_field_none_iff.mp (by decide), ⟨0, tag, nofun⟩, missed, ?_⟩
  rw [missed]
  exact nofun

end Descramble.Page
