import Descramble.Proofs.Url.Front

namespace Descramble.Url

open Text (Avoids)

def isMargin (c : Char) : Bool := c ≤ ' '

def isOuter (c : Char) : Bool := isMargin c || Family.special.endsAuthority c

theorem not_isMargin_of {p : Char → Bool} (control : ∀ c, isUnprintable c = true → p c = true)
    (space : p ' ' = true) (h : p c = false) : isMargin c = false := by
  refine decide_eq_false ?_
  intro low
  have code : c.toNat ≤ 32 := low
  rcases Nat.lt_or_eq_of_le code with below | same
  · exact Text.ne_of_test h (control c (by simp [isUnprintable, below])) rfl
  · exact Text.ne_of_test h space (Char.toNat_inj.mp same)

/-- A character that fails a test is inside if the test is passed by all that are outside. -/
theorem not_isOuter_of {p : Char → Bool} (control : ∀ c, isUnprintable c = true → p c = true)
    (marks : [' ', '/', '\\', '?', '#'].all p = true) (h : p c = false) : isOuter c = false := by
  simp only [List.all_cons, List.all_nil, Bool.and_true, Bool.and_eq_true] at marks
  obtain ⟨space, slash, backslash, question, number⟩ := marks
  have margin := not_isMargin_of control space h
  simp [isOuter, margin, Family.endsAuthority, Family.isSlash, Text.ne_of_test h slash,
    Text.ne_of_test h backslash, Text.ne_of_test h question, Text.ne_of_test h number]

theorem not_isOuter_of_unescaped (h : escapedInCredentials c = false) : isOuter c = false := by
  refine not_isOuter_of (p := escapedInCredentials) ?_ (by decide) h
  intro c control
  simp [escapedInCredentials, escapedInPath, escapedInFragment, control]

theorem not_isOuter_of_allowed (h : Host.isForbidden c = false) : isOuter c = false := by
  refine not_isOuter_of (p := Host.isForbidden) ?_ (by decide) h
  intro c control
  simp [Host.isForbidden, control]

theorem cutAt_append (hs : Avoids stops s) (ht : ∀ c ∈ t.head?, stops c = true) :
    cutAt stops (s ++ t) = (s, t) :=
  Prod.ext (hs.takeWhile_append ht) (hs.dropWhile_append ht)

section

variable {family : Family} {rest : Text}

theorem hostSpan_cons (inBrackets : Bool)
    (h : (family.endsAuthority c || (c == ':' && !inBrackets)) = false) (s : Text) :
    hostSpan family inBrackets (c :: s) =
      let span := hostSpan family (c == '[' || (inBrackets && c != ']')) s
      (c :: span.1, span.2) := by
  rw [hostSpan, h]
  rfl

theorem hostSpan_stop (h : ∀ c ∈ rest.head?, (family.endsAuthority c || c == ':') = true) :
    hostSpan family false rest = ([], rest) := by
  cases rest with
  | nil => rfl
  | cons c rest =>
    have stop := h c rfl
    rw [hostSpan]
    simp [stop]

theorem hostSpan_append (inside : Avoids family.endsAuthority s) (colon : ':' ∉ s)
    (opening : '[' ∉ s) (rest : Text) :
    hostSpan family false (s ++ rest) =
      (s ++ (hostSpan family false rest).1, (hostSpan family false rest).2) := by
  induction s with
  | nil => rfl
  | cons c s ih =>
    obtain ⟨hc, inside⟩ := List.forall_mem_cons.mp inside
    simp only [List.mem_cons, not_or] at colon opening
    have next : (c == '[' || (false && c != ']')) = false := by simp [Ne.symm opening.1]
    rw [List.cons_append, hostSpan_cons false (by simp [hc, Ne.symm colon.1]), next,
      ih inside colon.2 opening.2]
    rfl

/-- Colons in brackets do not end a host. -/
theorem hostSpan_brackets (inside : Avoids family.endsAuthority s) (closing : ']' ∉ s)
    (outside : family.endsAuthority ']' = false) (rest : Text) :
    hostSpan family true (s ++ ']' :: rest) =
      (s ++ ']' :: (hostSpan family false rest).1, (hostSpan family false rest).2) := by
  induction s with
  | nil => exact hostSpan_cons true (by simp [outside]) rest
  | cons c s ih =>
    obtain ⟨hc, inside⟩ := List.forall_mem_cons.mp inside
    simp only [List.mem_cons, not_or] at closing
    have next : (c == '[' || (true && c != ']')) = true := by simp [Ne.symm closing.1]
    rw [List.cons_append, hostSpan_cons true (by simp [hc]), next, ih inside closing.2]
    rfl

end

theorem isMargin_of_isOuter (h : isOuter c = false) : isMargin c = false :=
  (Bool.or_eq_false_iff.mp h).1

theorem endsAuthority_of_isOuter (h : isOuter c = false) :
    Family.special.endsAuthority c = false :=
  (Bool.or_eq_false_iff.mp h).2

namespace Host

theorem Canonical.inner (h : Canonical host) : Avoids isOuter host.text :=
  h.avoids (fun _ => not_isOuter_of_allowed) rfl rfl rfl

/-- The text of a host ends where its brackets do, or at the colon of a port. -/
theorem hostSpan_text (h : Canonical host)
    (hr : ∀ c ∈ rest.head?, (Family.special.endsAuthority c || c == ':') = true) :
    hostSpan .special false (host.text ++ rest) = (host.text, rest) := by
  have stop := hostSpan_stop hr
  rcases h.text_cases with allowed | ⟨pieces, brackets⟩
  · have inside : Avoids Family.special.endsAuthority host.text :=
      h.inner.mono fun _ => endsAuthority_of_isOuter
    rw [hostSpan_append inside (allowed.not_mem rfl) (allowed.not_mem rfl), stop, List.append_nil]
  · have inside : Avoids Family.special.endsAuthority (Ipv6.text pieces) :=
      avoids_ipv6 (fun _ hc => endsAuthority_of_isOuter (not_isOuter_of_allowed hc)) rfl pieces
    have closing : Avoids (· == ']') (Ipv6.text pieces) := by
      refine avoids_ipv6 (fun c hc => ?_) rfl pieces
      simpa using Text.ne_of_test hc (show isForbidden ']' = true from rfl)
    have opening : hostSpan .special false ('[' :: (Ipv6.text pieces ++ ']' :: rest)) =
        ('[' :: (hostSpan .special true (Ipv6.text pieces ++ ']' :: rest)).1,
          (hostSpan .special true (Ipv6.text pieces ++ ']' :: rest)).2) :=
      hostSpan_cons false rfl _
    rw [hostSpan_brackets inside (closing.not_mem rfl) rfl rest, stop] at opening
    rw [brackets, List.cons_append, List.append_assoc, List.singleton_append, opening]

theorem hostOf_text (h : Canonical host) : hostOf .special host.text = .ok host := by
  have full : host.text.isEmpty = false := by simpa using h.text_ne_nil
  rw [hostOf]
  · rw [full, ofDomain_text h]
    rfl
  · simp

theorem canonical_hostOf (h : hostOf .special s = .ok host) : host.Canonical := by
  unfold hostOf at h
  split at h
  · contradiction
  · split at h
    · contradiction
    · exact canonical_ofDomain h

end Host

theorem portOf_decimal (bound : port ≤ 65535) (other : defaultPort? scheme ≠ some port)
    (rest : Text) :
    portOf scheme (Text.decimal port ++ '/' :: rest) = .ok (some port, '/' :: rest) := by
  have digits : Avoids (!·.isDigit) (Text.decimal port) := Text.avoids_decimal (by decide) port
  have cut : cutAt (!·.isDigit) (Text.decimal port ++ '/' :: rest) =
      (Text.decimal port, '/' :: rest) := cutAt_append digits (by rintro c ⟨⟩; rfl)
  have value : (Text.decimal port).foldl (fun n c => 10 * n + (c.toNat - 48)) 0 = port :=
    Text.ofDigitChars_decimal port
  have full : (Text.decimal port).isEmpty = false := by simpa using Ipv4.decimal_ne_nil port
  rw [portOf, cut]
  simp only [value]
  rw [if_neg (by omega), if_pos (by simp), portOf.known, full]
  simp [other]

theorem portOf_eq_ok (h : portOf scheme s = .ok (port, rest)) :
    ∃ n digits, n ≤ 65535 ∧ portOf.known scheme n digits = port := by
  unfold portOf at h
  generalize cutAt (!·.isDigit) s = cut at h
  obtain ⟨digits, behind⟩ := cut
  simp only at h
  split at h
  · contradiction
  next bound =>
    refine ⟨_, digits, Nat.le_of_not_lt bound, ?_⟩
    split at h
    · cases h
      rfl
    · split at h
      · cases h
        rfl
      · contradiction

theorem portOf_bounds (h : portOf scheme s = .ok (some port, rest)) :
    port ≤ 65535 ∧ defaultPort? scheme ≠ some port := by
  obtain ⟨n, digits, bound, known⟩ := portOf_eq_ok h
  obtain ⟨kept, same⟩ := Option.ite_none_left_eq_some.mp known
  obtain rfl := Option.some.inj same
  exact ⟨bound, fun usual => kept (.inr usual)⟩

/-- An authority that is read from its own text. -/
structure Authority.Canonical (scheme : Text) (a : Authority) : Prop where
  user : Avoids escapedInCredentials a.user
  password : Avoids escapedInCredentials a.password
  host : a.host.Canonical
  port : ∀ port, a.port = some port → port ≤ 65535 ∧ defaultPort? scheme ≠ some port

namespace Authority

def portText (a : Authority) : Text :=
  match a.port with
  | some port => ':' :: Text.decimal port
  | none => []

theorem text_eq (a : Authority) : a.text = a.credentials ++ a.host.text ++ a.portText := rfl

theorem portText_avoids {p : Char → Bool} (colon : p ':' = false)
    (digits : ∀ d < 10, p (Nat.digitChar d) = false) (a : Authority) : Avoids p a.portText := by
  unfold portText
  split
  · exact .cons colon (Text.avoids_decimal digits _)
  · exact .nil p

variable {a : Authority} {scheme : Text}

def userInfo (a : Authority) : Text :=
  a.user ++ if a.password.isEmpty then [] else ':' :: a.password

theorem credentialsOf_userInfo (h : a.Canonical scheme) :
    credentialsOf a.userInfo = (a.user, a.password) := by
  have user := percentEncode_of_plain h.user
  have password := percentEncode_of_plain h.password
  have colon : ':' ∉ a.user := h.user.not_mem rfl
  unfold credentialsOf userInfo
  cases hp : a.password with
  | nil => simp [Text.upTo?_eq_none colon, user]
  | cons c s =>
    rw [hp] at password
    simp [Text.upTo?_append colon, user, password]

theorem at_not_mem_host (h : a.Canonical scheme) : '@' ∉ a.host.text := by
  have others : ∀ c, Host.isForbidden c = false → (c == '@') = false :=
    fun c hc => by simpa using Text.ne_of_test hc rfl
  exact (h.host.avoids others rfl rfl rfl).not_mem rfl

/-- The credentials end at the last at sign. -/
theorem splitLast?_text (h : a.Canonical scheme) :
    ∃ info, (Text.splitLast? '@' a.text).getD ([], a.text) = (info, a.host.text ++ a.portText) ∧
      credentialsOf info = (a.user, a.password) := by
  have behind : '@' ∉ a.host.text ++ a.portText := by
    have port : Avoids (· == '@') a.portText := portText_avoids rfl (by decide) a
    exact List.not_mem_append (at_not_mem_host h) (port.not_mem rfl)
  by_cases anonymous : a.user.isEmpty && a.password.isEmpty
  · have text : a.text = a.host.text ++ a.portText := by
      rw [text_eq, credentials, if_pos anonymous, List.nil_append]
    simp only [Bool.and_eq_true, List.isEmpty_iff] at anonymous
    refine ⟨[], ?_, by rw [anonymous.1, anonymous.2]; rfl⟩
    rw [text, Text.splitLast?_eq_none behind, Option.getD_none]
  · have text : a.text = a.userInfo ++ '@' :: (a.host.text ++ a.portText) := by
      rw [text_eq, credentials, if_neg anonymous, userInfo]
      simp
    refine ⟨a.userInfo, ?_, credentialsOf_userInfo h⟩
    rw [text, Text.splitLast?_append behind, Option.getD_some]

theorem Canonical.inner (h : a.Canonical scheme) : Avoids isOuter a.text := by
  have user : Avoids isOuter a.user := h.user.mono fun _ => not_isOuter_of_unescaped
  have password : Avoids isOuter a.password := h.password.mono fun _ => not_isOuter_of_unescaped
  have credentials : Avoids isOuter a.credentials := by
    unfold Authority.credentials
    split
    · exact .nil _
    · refine (user.append ?_).append (.cons rfl (.nil _))
      split
      · exact .nil _
      · exact password.cons rfl
  exact (credentials.append h.host.inner).append (portText_avoids rfl (by decide) a)

theorem Canonical.text_ne_nil (h : a.Canonical scheme) : a.text ≠ [] := by
  simp [text_eq, h.host.text_ne_nil]

theorem Canonical.text_ne_at (h : a.Canonical scheme) : (a.text == ['@']) = false := by
  have other : a.text ≠ ['@'] := by
    intro only
    obtain ⟨c, hc⟩ := List.exists_mem_of_ne_nil _ h.host.text_ne_nil
    have mem : c ∈ a.text := List.mem_append_left _ (List.mem_append_right _ hc)
    rw [only] at mem
    exact at_not_mem_host h (List.mem_singleton.mp mem ▸ hc)
  simpa using other

end Authority

/-- An authority is read from its text, up to the slash of a path. -/
theorem authorityOf_text (hs : familyOf scheme = .special) (h : a.Canonical scheme) (rest : Text) :
    authorityOf scheme (a.text ++ '/' :: rest) = .ok (a, '/' :: rest) := by
  have inside : Avoids Family.special.endsAuthority a.text :=
    h.inner.mono fun _ => endsAuthority_of_isOuter
  have cut : cutAt Family.special.endsAuthority (a.text ++ '/' :: rest) = (a.text, '/' :: rest) :=
    cutAt_append inside (by rintro c ⟨⟩; rfl)
  obtain ⟨info, split, credentials⟩ := Authority.splitLast?_text h
  -- Behind the host stands the colon of a port, or else the slash of the path.
  have ends : ∀ c ∈ (a.portText ++ '/' :: rest).head?,
      (Family.special.endsAuthority c || c == ':') = true := by
    unfold Authority.portText
    split
    · rintro c ⟨⟩
      rfl
    · rintro c ⟨⟩
      rfl
  have span := Host.hostSpan_text h.host ends
  rw [← List.append_assoc] at span
  simp only [authorityOf, hs, cut, split, credentials, h.text_ne_at, span,
    Host.hostOf_text h.host, h.host.isEmpty, bind, Except.bind, pure, Except.pure,
    Bool.false_and, Bool.false_eq_true, if_false]
  obtain ⟨user, password, host, port⟩ := a
  cases port with
  | none => rfl
  | some n =>
    obtain ⟨bound, other⟩ := h.port n rfl
    simp only [Authority.portText, List.cons_append, portOf_decimal bound other rest]

/-- Whatever authority is read is canonical. -/
theorem canonical_authorityOf (hs : familyOf scheme = .special)
    (h : authorityOf scheme s = .ok (a, rest)) : a.Canonical scheme := by
  obtain ⟨⟨credentials, hc⟩, ⟨name, hn⟩, port⟩ := authorityOf_eq_ok h
  have escaped := avoids_credentialsOf credentials
  rw [hc] at escaped
  refine ⟨escaped.1, escaped.2, Host.canonical_hostOf (hs ▸ hn), ?_⟩
  intro n hp
  rcases port with portless | ⟨t, read⟩
  · rw [portless] at hp
    contradiction
  · exact portOf_bounds (hp ▸ read)

end Descramble.Url
