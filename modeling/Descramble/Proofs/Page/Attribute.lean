import Descramble.Proofs.Page.Version

namespace Descramble.Page

open Text (First)

variable {html rest a v : Text} {i : Nat}

/-- The text inside the quotes of a tag's source, from where a path of the older layout names the
version. -/
def AttributeAt (html : Text) (i : Nat) (a : Text) : Prop :=
  ∃ rest, OpensAt html i rest ∧ rest.takeWhile (· != '"') = a

/-- The version is part of the path inside one pair of quotes, or of one path of the newer layout. -/
def WithinAddress (html v : Text) : Prop :=
  (∃ i a, AttributeAt html i a ∧ v ++ ending <+: a) ∨ ∃ i, PathAt html i v

/-- The first tag of the older layout that has an ending behind it on its line has none inside its
own quotes. -/
def Strays (html : Text) : Prop :=
  ∃ i, (∃ v, TaggedAt html i v) ∧ (∀ j < i, ∀ v, ¬ TaggedAt html j v) ∧
    ∃ a, AttributeAt html i a ∧ ¬ ending <:+: a

/-- A tag is opened at a position in one way. -/
theorem OpensAt.unique (h : OpensAt html i r) (h' : OpensAt html i r') : r = r' := by
  obtain ⟨gap, split⟩ := h
  obtain ⟨gap', split'⟩ := h'
  have behind := List.append_cancel_left (split.symm.trans split')
  have sources := congrArg Text.skipBlank behind
  rw [skipBlank_source, skipBlank_source] at sources
  exact List.append_cancel_left sources

/-- Without a quote in it the version is inside the attribute with the ending behind it. -/
theorem EndsAt.within (h : EndsAt ending rest v) (free : '"' ∉ v) :
    v ++ ending <+: rest.takeWhile (· != '"') := by
  obtain ⟨behind, rfl⟩ := h.ends
  have inside : ∀ c ∈ v ++ ending, (c != '"') = true := by
    intro c hc
    rw [bne_iff_ne]
    rintro rfl
    rcases List.mem_append.mp hc with hc | hc
    · exact free hc
    · exact absurd hc (by decide)
  rw [← List.append_assoc, List.takeWhile_append_of_pos inside]
  exact List.prefix_append _ _

/-- With a quote in it the attribute is closed in front of the ending. -/
theorem EndsAt.beyond (h : EndsAt ending rest v) (quote : '"' ∈ v) :
    ¬ ending <:+: rest.takeWhile (· != '"') := by
  obtain ⟨behind, split⟩ := h.ends
  obtain ⟨w, w', rfl, free⟩ := List.eq_append_cons_of_mem quote
  have inside : ∀ c ∈ w, (c != '"') = true := by
    intro c hc
    rw [bne_iff_ne]
    rintro rfl
    exact free hc
  have closed : rest.takeWhile (· != '"') = w := by
    rw [split, List.append_assoc, List.takeWhile_append_of_pos inside, List.cons_append,
      List.takeWhile_cons_of_neg (by decide), List.append_nil]
  rw [closed]
  intro early
  obtain ⟨p, q, rfl⟩ := early
  have before : p.length < (p ++ ending ++ q ++ '"' :: w').length := by
    simp only [List.length_append, List.length_cons]
    omega
  refine h.nearest p.length before ?_
  rw [split]
  simp only [List.append_assoc, List.drop_left]
  exact List.prefix_append _ _

theorem PathAt.quote_not_mem (h : PathAt html i v) : '"' ∉ v := by
  intro quote
  exact absurd (h.2.1 '"' quote) (by decide)

theorem WithinAddress.quote_not_mem (h : WithinAddress html v) : '"' ∉ v := by
  obtain ⟨i, a, ⟨rest, -, rfl⟩, front⟩ | ⟨i, path⟩ := h
  · intro quote
    have inside := front.subset (List.mem_append_left ending quote)
    exact absurd (List.mem_takeWhile_imp inside) (by decide)
  · exact path.quote_not_mem

theorem Strays.exists_first (h : Strays html) : ∃ v, First (TaggedAt html) v := by
  obtain ⟨i, ⟨v, here⟩, least, -⟩ := h
  exact ⟨v, i, here, least⟩

/-- What the first tag names has a quote in it exactly if the tag strays. -/
theorem strays_iff (first : First (TaggedAt html) v) : Strays html ↔ '"' ∈ v := by
  obtain ⟨i, ⟨rest, opens, ends⟩, least⟩ := first
  constructor
  · intro strays
    obtain ⟨i', ⟨u, here⟩, least', a, ⟨rest', opens', rfl⟩, stray⟩ := strays
    obtain rfl : i = i' := by
      rcases Nat.lt_trichotomy i i' with before | same | behind
      · exact absurd ⟨rest, opens, ends⟩ (least' i before v)
      · exact same
      · exact absurd here (least i' behind u)
    rw [opens'.unique opens] at stray
    by_contra free
    exact stray ((List.suffix_append v ending).isInfix.trans (ends.within free).isInfix)
  · intro quote
    exact ⟨i, ⟨v, rest, opens, ends⟩, least, _, ⟨rest, opens, rfl⟩, ends.beyond quote⟩

/-- A version reaches from one attribute into a later one exactly on pages that stray: their first
tag of the older layout has an ending on its line, but behind its own quotes. Otherwise it is part
of one address. -/
theorem version_within_address (found : version html = .ok v) :
    ('"' ∈ v ↔ Strays html) ∧ ('"' ∉ v ↔ WithinAddress html v) := by
  obtain ⟨first, -⟩ | ⟨blank, i, path, -⟩ := version_eq_ok_iff.mp found
  · refine ⟨(strays_iff first).symm, ?_, WithinAddress.quote_not_mem⟩
    intro free
    obtain ⟨i, ⟨rest, opens, ends⟩, -⟩ := first
    exact .inl ⟨i, _, ⟨rest, opens, rfl⟩, ends.within free⟩
  · have within : WithinAddress html v := .inr ⟨i, path⟩
    refine ⟨iff_of_false within.quote_not_mem ?_, iff_of_true within.quote_not_mem within⟩
    intro strays
    obtain ⟨u, first⟩ := strays.exists_first
    exact absurd (blank u first '"' ((strays_iff first).mp strays)) (by decide)

/-- A second tag with an ending does no harm if the first one has its own. -/
theorem version_within_address_twoTags :
    let html := "<script src=\"/yts/jsbin/player-a/base.js\"></script><script ".toList ++
      "src=\"/yts/jsbin/player-b/base.js\">".toList
    version html = .ok "a".toList ∧ ¬ Strays html ∧ WithinAddress html "a".toList := by
  intro html
  have found : version html = .ok "a".toList := by decide
  have address := version_within_address found
  have free : '"' ∉ "a".toList := by decide
  exact ⟨found, fun strays => free (address.1.mpr strays), address.2.mp free⟩

/-- The script of the first tag is another one, so the version reaches into the second tag. -/
theorem version_across_tags :
    let html := "<script src=\"/yts/jsbin/player-x/embed.js\"></script>".toList ++
      "<script src=\"/s/player/y/base.js\"></script>".toList
    version html = .ok "x/embed.js\"></script><script src=\"/s/player/y".toList ∧
      '"' ∈ "x/embed.js\"></script><script src=\"/s/player/y".toList := by
  decide

end Descramble.Page
