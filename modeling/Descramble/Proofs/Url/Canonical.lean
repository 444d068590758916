import Descramble.Proofs.Url.Authority
import Descramble.Proofs.Url.Query

namespace Descramble.Url

open Text (Avoids)

theorem trimmed_eq_self (h : Avoids isMargin s) : trimmed s = s := by
  have back : Avoids isMargin s.reverse := fun c hc => h c (List.mem_reverse.mp hc)
  have front := h.dropWhile_eq_self
  have behind := back.dropWhile_eq_self
  change ((s.dropWhile isMargin).reverse.dropWhile isMargin).reverse = s
  rw [front, behind, List.reverse_reverse]

theorem unbroken_eq_self (h : Avoids isMargin s) : unbroken s = s := by
  apply List.filter_eq_self.mpr
  intro c hc
  have inside := h c hc
  simp [isBreak, Text.ne_of_test inside (show isMargin '\t' = true from rfl),
    Text.ne_of_test inside (show isMargin '\n' = true from rfl),
    Text.ne_of_test inside (show isMargin '\r' = true from rfl)]

section

variable {scheme : Text}

theorem familyOf_eq_special (h : familyOf scheme = .special) :
    scheme = "http".toList ∨ scheme = "https".toList ∨ scheme = "ws".toList ∨
      scheme = "wss".toList ∨ scheme = "ftp".toList := by
  unfold familyOf at h
  split at h
  · contradiction
  · split at h
    · next known =>
      have mem := List.contains_iff_mem.mp known
      simpa only [List.mem_cons, List.not_mem_nil, or_false] using mem
    · contradiction

theorem scheme?_append (h : familyOf scheme = .special) (s : Text) :
    scheme? (scheme ++ ':' :: s) = some (scheme, s) := by
  rcases familyOf_eq_special h with rfl | rfl | rfl | rfl | rfl <;> rfl

theorem behindColon_append (h : familyOf scheme = .special) (s : Text) :
    behindColon (scheme ++ ':' :: s) = s := by
  rcases familyOf_eq_special h with rfl | rfl | rfl | rfl | rfl <;> rfl

theorem avoids_scheme (h : familyOf scheme = .special) : Avoids isMargin scheme := by
  rcases familyOf_eq_special h with rfl | rfl | rfl | rfl | rfl <;> simp [Avoids, isMargin]

end

/-- An address that is read from its own text. -/
structure Address.Canonical (u : Address) : Prop where
  special : familyOf u.scheme = .special
  authority : ∃ a, u.authority = some a ∧ a.Canonical u.scheme
  path : ∃ ss, u.path = .rooted ss ∧ ss ≠ [] ∧ ∀ s ∈ ss, CanonicalSegment s
  query : ∀ q, u.query = some q → Avoids (escapedInQuery true) q
  fragment : ∀ f, u.fragment = some f → Avoids escapedInFragment f

namespace Address

variable {u : Address}

theorem avoids_queryText {p : Char → Bool} (mark : p '?' = false)
    (h : ∀ q, u.query = some q → Avoids p q) : Avoids p u.queryText := by
  unfold queryText
  split
  · next q hq => exact (h q hq).cons mark
  · exact .nil p

theorem avoids_fragmentText {p : Char → Bool} (mark : p '#' = false)
    (h : ∀ f, u.fragment = some f → Avoids p f) : Avoids p u.fragmentText := by
  unfold fragmentText
  split
  · next f hf => exact (h f hf).cons mark
  · exact .nil p

end Address

/-- Query and fragment are found behind their marks, and are not escaped again. -/
theorem Tail.ofText_text {path : Text} {u : Address} (hp : Undivided path)
    (query : ∀ q, u.query = some q → Avoids (escapedInQuery true) q)
    (fragment : ∀ f, u.fragment = some f → Avoids escapedInFragment f) :
    Tail.ofText .special (path ++ u.queryText ++ u.fragmentText) =
      ⟨path, u.query, u.fragment⟩ := by
  have mark (d : Char) (hd : isDelimiter d = true) : Avoids (· == d) path :=
    Avoids.mono hp fun c hc => by simpa using Text.ne_of_test hc hd
  have whole : Avoids (· == '#') u.queryText :=
    Address.avoids_queryText rfl fun q hq =>
      (query q hq).mono fun c hc => by simpa using Text.ne_of_test hc rfl
  have cutFragment : cutAt (· == '#') (path ++ u.queryText ++ u.fragmentText) =
      (path ++ u.queryText, u.fragmentText) := by
    apply cutAt_append ((mark '#' rfl).append whole)
    unfold Address.fragmentText
    split <;> simp
  have cutQuery : cutAt (· == '?') (path ++ u.queryText) = (path, u.queryText) := by
    apply cutAt_append (mark '?' rfl)
    unfold Address.queryText
    split <;> simp
  simp only [Tail.ofText, cutFragment, cutQuery, Tail.mk.injEq, true_and]
  refine ⟨?_, ?_⟩
  · unfold Address.queryText
    cases hq : u.query with
    | none => rfl
    | some q => exact congrArg some (percentEncode_of_plain (query q hq))
  · unfold Address.fragmentText
    cases hf : u.fragment with
    | none => rfl
    | some f => exact congrArg some (percentEncode_of_plain (fragment f hf))

theorem CanonicalSegment.undivided (h : CanonicalSegment s) : Undivided s :=
  h.escaped.mono fun _ => not_isDelimiter_of rfl rfl

namespace Address

def pathOn (u : Address) : Text := u.path.text ++ u.queryText ++ u.fragmentText

theorem text_eq {u : Address} (ha : u.authority = some a) :
    u.text = u.scheme ++ ':' :: '/' :: '/' :: (a.text ++ u.pathOn) := by
  simp [text, front, ha, pathOn]

end Address

theorem not_isMargin_escaped (h : escapedInFragment c = false) : isMargin c = false := by
  refine not_isMargin_of (p := escapedInFragment) ?_ rfl h
  intro c control
  simp [escapedInFragment, control]

theorem not_isMargin_query (h : escapedInQuery special c = false) : isMargin c = false := by
  refine not_isMargin_of (p := escapedInQuery special) ?_ (by simp [escapedInQuery]) h
  intro c control
  simp [escapedInQuery, control]

theorem Authority.Canonical.dropSlashes_text {a : Authority} (h : a.Canonical scheme)
    (rest : Text) : dropSlashes (a.text ++ rest) = a.text ++ rest := by
  have inner := h.inner
  cases text : a.text with
  | nil => exact absurd text h.text_ne_nil
  | cons c s =>
    rw [text] at inner
    have ends := endsAuthority_of_isOuter (inner c List.mem_cons_self)
    have slash : Family.special.isSlash c = false := by
      simp only [Family.endsAuthority, Bool.or_eq_false_iff] at ends
      exact ends.1.1
    exact List.dropWhile_cons_of_neg (by simp [slash])

namespace Address.Canonical

variable {u : Address} {a : Authority} {scheme : Text}

/-- An address is read from the text of its authority and its path. -/
theorem withAuthority_text (h : u.Canonical) (authority : u.authority = some a) :
    withAuthority u.scheme (a.text ++ u.pathOn) = .ok u := by
  obtain ⟨b, same, ha⟩ := h.authority
  obtain rfl : a = b := Option.some.inj (authority.symm.trans same)
  obtain ⟨ss, path, full, segments⟩ := h.path
  -- The path is not empty, so a slash ends the authority.
  obtain ⟨rest, begins⟩ : ∃ rest, u.pathOn = '/' :: rest := by
    cases ss with
    | nil => contradiction
    | cons s ss => exact ⟨_, by rw [pathOn, path]; rfl⟩
  have read := authorityOf_text h.special ha rest
  rw [← begins] at read
  have undivided : Undivided (Path.rooted ss).text :=
    Path.undivided_text fun s hs => (segments s hs).undivided
  rw [← path] at undivided
  have tail : Tail.ofText .special u.pathOn = ⟨u.path.text, u.query, u.fragment⟩ :=
    Tail.ofText_text undivided h.query h.fragment
  have resolved : resolve [] (segmentsOf .special (dropSlash .special u.path.text)) = ss := by
    rw [path, resolve_segmentsOf_text full segments]
  simp only [withAuthority, bind, Except.bind, read, h.special, tail, resolved]
  rw [if_neg (by simp), ← path, ← authority]
  rfl

/-- Nothing of an address is dropped where it is trimmed or unbroken. -/
theorem inner (h : u.Canonical) (ha : a.Canonical scheme) :
    Avoids isMargin (a.text ++ u.pathOn) := by
  obtain ⟨ss, path, -, segments⟩ := h.path
  have authority : Avoids isMargin a.text :=
    ha.inner.mono fun _ => isMargin_of_isOuter
  have pathText : Avoids isMargin u.path.text := by
    rw [path]
    exact Path.avoids_text rfl fun s hs => (segments s hs).escaped.mono fun c hc =>
      not_isMargin_escaped (Bool.or_eq_false_iff.mp hc).1
  have query : Avoids isMargin u.queryText := avoids_queryText rfl fun q hq =>
    (h.query q hq).mono fun c hc => not_isMargin_query hc
  have fragment : Avoids isMargin u.fragmentText := avoids_fragmentText rfl fun f hf =>
    (h.fragment f hf).mono fun c hc => not_isMargin_escaped hc
  exact authority.append ((pathText.append query).append fragment)

/-- A canonical address is read from its text. -/
theorem parse_eq_ok (h : u.Canonical) : Address.parse u.text = .ok u := by
  obtain ⟨a, authority, ha⟩ := h.authority
  have slash : isMargin '/' = false := rfl
  have behind : Avoids isMargin ('/' :: '/' :: (a.text ++ u.pathOn)) :=
    .cons slash (.cons slash (h.inner ha))
  have whole : Avoids isMargin (u.scheme ++ ':' :: '/' :: '/' :: (a.text ++ u.pathOn)) :=
    (avoids_scheme h.special).append (.cons rfl behind)
  have slashes : dropSlashes ('/' :: '/' :: (a.text ++ u.pathOn)) = a.text ++ u.pathOn :=
    ha.dropSlashes_text u.pathOn
  rw [text_eq authority, Address.parse, trimmed_eq_self whole, unbroken_eq_self whole,
    scheme?_append h.special, behindColon_append h.special]
  simp only [ofScheme, h.special, unbroken_eq_self behind, slashes, h.withAuthority_text authority]

/-- The query may become any fields. -/
theorem withFields (h : u.Canonical) (fs : List Field) : (u.withFields fs).Canonical := by
  refine ⟨h.special, h.authority, h.path, ?_, h.fragment⟩
  intro q hq
  obtain rfl := Option.some.inj hq
  exact Form.avoids_text fs

end Address.Canonical

theorem Tail.avoids_query (h : (Tail.ofText family s).query = some q) :
    Avoids (escapedInQuery family.isSpecial) q := by
  simp only [Tail.ofText] at h
  split at h
  · contradiction
  · obtain rfl := Option.some.inj h
    exact avoids_escapedInQuery _ _

theorem Tail.avoids_fragment (family : Family) (h : (Tail.ofText family s).fragment = some f) :
    Avoids escapedInFragment f := by
  simp only [Tail.ofText] at h
  split at h
  · contradiction
  · obtain rfl := Option.some.inj h
    exact avoids_escapedInFragment _

theorem withAuthority_eq_ok (h : withAuthority scheme s = .ok u) : u.scheme = scheme := by
  simp only [withAuthority, bind, Except.bind, pure, Except.pure] at h
  split at h
  · contradiction
  · cases h
    rfl

/-- Whatever is read is canonical. -/
theorem canonical_withAuthority (hs : familyOf scheme = .special)
    (h : withAuthority scheme s = .ok u) : u.Canonical := by
  simp only [withAuthority, bind, Except.bind, pure, Except.pure, hs] at h
  split at h
  · contradiction
  next r found =>
    cases h
    refine ⟨hs, ⟨_, rfl, canonical_authorityOf hs found⟩, ⟨_, rfl, ?_, ?_⟩, ?_, ?_⟩
    · rw [if_neg (by simp)]
      exact resolve_ne_nil (segmentsOf_ne_nil _ _) []
    · rw [if_neg (by simp)]
      exact canonical_resolve _
    · exact fun q hq => Tail.avoids_query hq
    · exact fun f hf => Tail.avoids_fragment .special hf

theorem ofOther_eq_ok (h : ofOther scheme s = .ok u) : u.scheme = scheme := by
  unfold ofOther at h
  split at h
  · exact withAuthority_eq_ok h
  · cases h
    rfl

theorem ofFileHost_eq_ok (h : ofFileHost s = .ok u) : ∃ host t, u = fileAddress host t := by
  simp only [ofFileHost, bind, Except.bind, pure, Except.pure] at h
  split at h
  · cases h
    exact ⟨_, _, rfl⟩
  split at h
  · cases h
    exact ⟨_, _, rfl⟩
  split at h
  · contradiction
  split at h
  · cases h
    exact ⟨_, _, rfl⟩
  · cases h
    exact ⟨_, _, rfl⟩

theorem ofFile_eq_ok (h : ofFile s = .ok u) : ∃ host t, u = fileAddress host t := by
  unfold ofFile at h
  split at h
  · cases h
    exact ⟨_, _, rfl⟩
  split at h
  · cases h
    exact ⟨_, _, rfl⟩
  · exact ofFileHost_eq_ok h

/-- Whatever address of a special scheme is read is canonical. -/
theorem Address.canonical_parse (hs : familyOf u.scheme = .special)
    (h : Address.parse s = .ok u) : u.Canonical := by
  unfold Address.parse at h
  split at h
  · next scheme rest found =>
    unfold ofScheme at h
    -- Only the special schemes give an address of their family.
    split at h
    · obtain ⟨host, t, rfl⟩ := ofFile_eq_ok h
      contradiction
    · next special => exact canonical_withAuthority special h
    · next other =>
      rw [ofOther_eq_ok h, other] at hs
      contradiction
  · contradiction

end Descramble.Url
