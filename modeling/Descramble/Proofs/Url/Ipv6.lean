import Descramble.Proofs.Url.Ipv4

namespace Descramble.Url.Ipv6

abbrev numeral (n : Nat) : Text := Nat.toDigits 16 n

theorem not_mem_numeral (hc : ∀ d < 16, Nat.digitChar d ≠ c) (n : Nat) : c ∉ numeral n :=
  fun mem => Text.forall_mem_toDigits (P := (· ≠ c)) (by omega) hc n c mem rfl

theorem numeral_cons (n : Nat) : ∃ c s, numeral n = c :: s ∧ c ≠ ':' := by
  cases h : numeral n with
  | nil => exact absurd h Nat.toDigits_ne_nil
  | cons c s =>
    refine ⟨c, s, rfl, ?_⟩
    rintro rfl
    exact not_mem_numeral (by decide) n (h ▸ List.mem_cons_self)

theorem piece?_numeral (h : n < 65536) : piece? (numeral n) = some n := by
  have short : (numeral n).length ≤ 4 := (Nat.length_toDigits_le_iff (by omega) (by omega)).mpr h
  have long : 1 ≤ (numeral n).length := List.length_pos_of_ne_nil Nat.toDigits_ne_nil
  rw [piece?, if_pos ⟨long, short⟩, Ipv4.numeral?_toDigits (by omega) (by omega)]

theorem piece?_lt (h : piece? s = some n) : n < 65536 := by
  obtain ⟨⟨-, short⟩, value⟩ := Option.ite_none_right_eq_some.mp h
  calc n < 16 ^ s.length := Ipv4.numeral?_lt value
    _ ≤ 16 ^ 4 := Nat.pow_le_pow_right (by omega) short

theorem groups?_numerals (hne : ps ≠ []) (h : ∀ p ∈ ps, p < 65536) :
    groups? (ps.map numeral) = some ps := by
  induction ps with
  | nil => contradiction
  | cons p ps ih =>
    obtain ⟨hp, hps⟩ := List.forall_mem_cons.mp h
    have first := piece?_numeral hp
    cases ps with
    | nil =>
      have plain : (numeral p).contains '.' = false := by
        simpa using not_mem_numeral (c := '.') (by decide) p
      rw [List.map_singleton, groups?, plain, group?, first]
      rfl
    | cons q qs =>
      have rest := ih (by simp) hps
      rw [List.map_cons] at rest
      rw [List.map_cons, List.map_cons, groups?, first, rest]
      · rfl
      · simp

theorem pieceText_pieces (hne : ps ≠ []) :
    Text.pieces (· == ':') (pieceText ps) = ps.map numeral := by
  apply Text.pieces_join
  · intro s hs
    obtain ⟨n, -, rfl⟩ := List.mem_map.mp hs
    exact not_mem_numeral (by decide) n
  · simpa using hne

theorem pieceText_cons (p q : Nat) (ps : List Nat) :
    pieceText (p :: q :: ps) = numeral p ++ ':' :: pieceText (q :: ps) := by
  simp [pieceText, Text.join, List.intercalate_cons_cons]

theorem pieceText_singleton (p : Nat) : pieceText [p] = numeral p := by
  simp [pieceText, Text.join]

theorem pieceText_begins (p : Nat) (ps : List Nat) :
    ∃ c s, pieceText (p :: ps) = c :: s ∧ c ≠ ':' := by
  obtain ⟨c, s, numeral, other⟩ := numeral_cons p
  cases ps with
  | nil => exact ⟨c, s, by rw [pieceText_singleton, numeral], other⟩
  | cons q ps => exact ⟨c, _, by rw [pieceText_cons, numeral, List.cons_append], other⟩

/-- Pieces are read from between their colons. -/
theorem side?_pieceText (h : ∀ p ∈ ps, p < 65536) : side? (pieceText ps) = some ps := by
  cases ps with
  | nil => rfl
  | cons p ps =>
    obtain ⟨c, s, begins, -⟩ := pieceText_begins p ps
    have full : (pieceText (p :: ps)).isEmpty = false := by simp [begins]
    rw [side?, full, if_neg (by simp), pieceText_pieces (by simp), groups?_numerals (by simp) h]

theorem splitAtGap?_cons (hc : c ≠ ':') (s : Text) :
    splitAtGap? (c :: s) = (splitAtGap? s).map fun p => (c :: p.1, p.2) := by
  rw [splitAtGap?]
  simp [hc]

theorem splitAtGap?_append (hs : ':' ∉ s) (rest : Text) :
    splitAtGap? (s ++ rest) = (splitAtGap? rest).map fun p => (s ++ p.1, p.2) := by
  induction s with
  | nil => simp
  | cons c s ih =>
    simp only [List.mem_cons, not_or] at hs
    rw [List.cons_append, splitAtGap?_cons (Ne.symm hs.1), ih hs.2, Option.map_map]
    rfl

/-- Colons between pieces are no gap, since none of the pieces is empty. -/
theorem splitAtGap?_pieceText (ps : List Nat) (rest : Text) :
    splitAtGap? (pieceText ps ++ rest) =
      (splitAtGap? rest).map fun p => (pieceText ps ++ p.1, p.2) := by
  induction ps with
  | nil => simp [pieceText, Text.join]
  | cons p ps ih =>
    cases ps with
    | nil => rw [pieceText_singleton, splitAtGap?_append (not_mem_numeral (by decide) p)]
    | cons q ps =>
      -- The colon behind the first piece is not doubled: a digit of the next piece follows it.
      obtain ⟨c, s, begins, other⟩ := pieceText_begins q ps
      have colon : splitAtGap? (':' :: (pieceText (q :: ps) ++ rest)) =
          (splitAtGap? (pieceText (q :: ps) ++ rest)).map fun p => (':' :: p.1, p.2) := by
        rw [begins, List.cons_append, splitAtGap?]
        simp [other]
      rw [pieceText_cons, List.append_assoc, splitAtGap?_append (not_mem_numeral (by decide) p),
        List.cons_append, colon, ih, Option.map_map, Option.map_map]
      simp [Function.comp_def]

/-- The longest gap is a run of zeros, and counts from where the list begins. -/
theorem longestGap_split (ps : List Nat) (start : Nat) :
    ∃ before behind, ps = before ++ List.replicate (longestGap start ps).2 0 ++ behind ∧
      (longestGap start ps).1 = start + before.length := by
  induction ps generalizing start with
  | nil => exact ⟨[], [], rfl, rfl⟩
  | cons p ps ih =>
    rw [longestGap]
    -- The run that begins here is the longest one, or a later one is.
    split
    · refine ⟨[], (p :: ps).dropWhile (· == 0), ?_, rfl⟩
      have zeros : ∀ q ∈ (p :: ps).takeWhile (· == 0), q = 0 := by
        intro q hq
        simpa using List.all_eq_true.mp List.all_takeWhile q hq
      rw [List.nil_append, ← List.eq_replicate_of_mem zeros]
      exact List.takeWhile_append_dropWhile.symm
    · obtain ⟨before, behind, split, first⟩ := ih (start + 1)
      refine ⟨p :: before, behind, congrArg (p :: ·) split, ?_⟩
      rw [first, List.length_cons]
      omega

/-- A text has all pieces, or it has a double colon for two or more zeros. -/
theorem text_cases (ps : List Nat) :
    text ps = pieceText ps ∨
      ∃ before length behind, 2 ≤ length ∧ ps = before ++ List.replicate length 0 ++ behind ∧
        text ps = pieceText before ++ ':' :: ':' :: pieceText behind := by
  obtain ⟨before, behind, split, first⟩ := longestGap_split ps 0
  rw [Nat.zero_add] at first
  unfold text
  generalize longestGap 0 ps = gap at split first ⊢
  obtain ⟨start, length⟩ := gap
  simp only at split first ⊢
  by_cases long : 2 ≤ length
  · refine .inr ⟨before, length, behind, long, split, ?_⟩
    have front : ps.take start = before := by simp [split, first]
    have back : ps.drop (start + length) = behind := by simp [split, first, List.drop_append]
    rw [if_pos long, front, back]
    simp
  · exact .inl (if_neg long)

section

variable {P : Char → Prop}

theorem forall_mem_pieceText (colon : P ':') (digits : ∀ d < 16, P (Nat.digitChar d))
    (ps : List Nat) : ∀ c ∈ pieceText ps, P c := by
  intro c hc
  rcases Text.mem_join hc with hc | ⟨s, hs, hc⟩
  · exact List.mem_singleton.mp hc ▸ colon
  · obtain ⟨n, -, rfl⟩ := List.mem_map.mp hs
    exact Text.forall_mem_toDigits (by omega) digits n c hc

/-- The text has hexadecimal digits and colons. -/
theorem forall_mem_text (colon : P ':') (digits : ∀ d < 16, P (Nat.digitChar d))
    (ps : List Nat) : ∀ c ∈ text ps, P c := by
  have pieces := forall_mem_pieceText colon digits
  rcases text_cases ps with written | ⟨before, length, behind, -, -, written⟩
  · exact written ▸ pieces ps
  · rw [written]
    have gap := List.forall_mem_cons.mpr ⟨colon, pieces behind⟩
    exact List.forall_mem_append.mpr ⟨pieces before, List.forall_mem_cons.mpr ⟨colon, gap⟩⟩

end

theorem ofText?_pieceText (h : ∀ p ∈ ps, p < 65536) (eight : ps.length = 8) :
    ofText? (pieceText ps) = some ps := by
  have gapless := splitAtGap?_pieceText ps []
  rw [List.append_nil, splitAtGap?, Option.map_none] at gapless
  rw [ofText?, gapless]
  simp [side?_pieceText h, eight]

theorem dot_not_mem_pieceText (ps : List Nat) : '.' ∉ pieceText ps :=
  fun dot => forall_mem_pieceText (P := (· ≠ '.')) (by decide) (by decide) ps '.' dot rfl

/-- The gap holds as many zeros as are missing. -/
theorem ofText?_gap (hb : ∀ p ∈ before, p < 65536) (hr : ∀ p ∈ behind, p < 65536)
    (short : before.length + behind.length ≤ 7) :
    ofText? (pieceText before ++ ':' :: ':' :: pieceText behind) =
      some (before ++ List.replicate (8 - before.length - behind.length) 0 ++ behind) := by
  have gap := splitAtGap?_pieceText before (':' :: ':' :: pieceText behind)
  rw [splitAtGap?, Option.map_some, List.append_nil] at gap
  rw [ofText?, gap]
  simp [dot_not_mem_pieceText, side?_pieceText hb, side?_pieceText hr, short]

/-- Eight pieces are read from the text that is written for them. -/
theorem ofText?_text (eight : ps.length = 8) (h : ∀ p ∈ ps, p < 65536) :
    ofText? (text ps) = some ps := by
  rcases text_cases ps with written | ⟨before, length, behind, long, rfl, written⟩
  · rw [written, ofText?_pieceText h eight]
  · simp only [List.length_append, List.length_replicate] at eight
    simp only [List.forall_mem_append] at h
    have missing : 8 - before.length - behind.length = length := by omega
    rw [written, ofText?_gap h.1.1 h.2 (by omega), missing]

theorem byte?_lt (h : byte? s = some n) : n < 256 := by
  unfold byte? at h
  split at h
  · contradiction
  · cases h
    omega
  · contradiction
  · simpa using (Option.filter_eq_some_iff.mp h).2

theorem bytes_lt {ss : List Text} (h : ss.mapM byte? = some ps) : ∀ p ∈ ps, p < 256 := by
  induction ss generalizing ps with
  | nil =>
    cases h
    simp
  | cons s ss ih =>
    rw [List.mapM_cons] at h
    obtain ⟨p, hp, h⟩ := Option.bind_eq_some_iff.mp h
    obtain ⟨qs, hqs, h⟩ := Option.bind_eq_some_iff.mp h
    cases h
    exact List.forall_mem_cons.mpr ⟨byte?_lt hp, ih hqs⟩

theorem dotted?_lt (h : dotted? s = some ps) : ∀ p ∈ ps, p < 65536 := by
  unfold dotted? at h
  split at h
  · next a b c d found =>
    cases h
    have small := bytes_lt found
    simp only [List.forall_mem_cons, List.not_mem_nil, false_implies, implies_true, and_true]
      at small ⊢
    omega
  · contradiction

theorem groups?_lt (h : groups? ss = some ps) : ∀ p ∈ ps, p < 65536 := by
  induction ss using groups?.induct generalizing ps with
  | case1 => cases h
  | case2 s dots =>
    rw [groups?, if_pos dots] at h
    exact dotted?_lt h
  | case3 s dots =>
    rw [groups?, if_neg dots] at h
    obtain ⟨p, hp, rfl⟩ := Option.map_eq_some_iff.mp h
    exact List.forall_mem_singleton.mpr (piece?_lt hp)
  | case4 s ss more ih =>
    rw [groups?] at h
    · obtain ⟨p, hp, h⟩ := Option.bind_eq_some_iff.mp h
      obtain ⟨qs, hqs, h⟩ := Option.bind_eq_some_iff.mp h
      cases h
      exact List.forall_mem_cons.mpr ⟨piece?_lt hp, ih hqs⟩
    · exact more

theorem side?_lt (h : side? s = some ps) : ∀ p ∈ ps, p < 65536 := by
  unfold side? at h
  split at h
  · cases h
    simp
  · exact groups?_lt h

/-- What is read are eight pieces of 16 bits. -/
theorem ofText?_bounds (h : ofText? s = some ps) : ps.length = 8 ∧ ∀ p ∈ ps, p < 65536 := by
  unfold ofText? at h
  split at h
  · obtain ⟨found, eight⟩ := Option.filter_eq_some_iff.mp h
    exact ⟨by simpa using eight, side?_lt found⟩
  · next left right _ =>
    simp only at h
    obtain ⟨-, h⟩ := Option.ite_none_left_eq_some.mp h
    obtain ⟨ls, hl, h⟩ := Option.bind_eq_some_iff.mp h
    obtain ⟨rs, hr, h⟩ := Option.bind_eq_some_iff.mp h
    obtain ⟨short, h⟩ := Option.ite_none_right_eq_some.mp h
    obtain rfl := Option.some.inj h
    have zeros : ∀ p ∈ List.replicate (8 - ls.length - rs.length) 0, p < 65536 := by
      intro p hp
      rw [List.eq_of_mem_replicate hp]
      omega
    refine ⟨?_, ?_⟩
    · simp only [List.length_append, List.length_replicate]
      omega
    · exact List.forall_mem_append.mpr
        ⟨List.forall_mem_append.mpr ⟨side?_lt hl, zeros⟩, side?_lt hr⟩

end Descramble.Url.Ipv6
