import Descramble.Proofs.Url.Delimiters
import Descramble.Proofs.Url.Segments

namespace Descramble.Url

theorem undivided_resolve (hp : ∀ s ∈ path, Undivided s) (hss : ∀ s ∈ ss, Undivided s) :
    ∀ s ∈ resolve path ss, Undivided s :=
  forall_mem_resolve Undivided.nil hp fun s hs _ _ => hss s hs

theorem undivided_segmentsOf (family : Family) (s : Text) :
    ∀ segment ∈ segmentsOf family s, Undivided segment := by
  intro segment hs
  obtain ⟨p, -, rfl⟩ := List.mem_map.mp hs
  exact Undivided.escapedInPath p

theorem undivided_resolveFile (hp : ∀ s ∈ path, Undivided s) (drive : Bool) :
    ∀ s ∈ (resolveFile path drive ss).1, Undivided s := by
  induction ss generalizing path drive with
  | nil => exact fun s hs => hp s (List.mem_reverse.mp hs)
  | cons s ss ih =>
    have segment := Undivided.escapedInPath (unbroken s)
    rw [resolveFile]
    split
    · exact ih (forall_mem_last .nil (forall_mem_parent hp) ss.isEmpty) drive
    split
    · exact ih (forall_mem_last .nil hp ss.isEmpty) drive
    split
    · exact ih (List.forall_mem_cons.mpr ⟨segment, hp⟩) drive
    split
    · apply ih
      exact List.forall_mem_singleton.mpr
        ((segment.take 1).append (.singleton rfl))
    split
    · apply ih
      exact List.forall_mem_cons.mpr
        ⟨segment.drop 2, List.forall_mem_singleton.mpr (segment.take 2)⟩
    · exact ih (List.forall_mem_singleton.mpr segment) drive

theorem dropEmptyFront_subset (ss : List Text) : dropEmptyFront ss ⊆ ss := by
  induction ss using dropEmptyFront.induct with
  | case1 s ss ih =>
    rw [dropEmptyFront]
    exact List.subset_cons_of_subset [] ih
  | case2 ss other =>
    rw [dropEmptyFront]
    · exact List.Subset.refl ss
    · exact other

theorem undivided_fileSegments (s : Text) :
    ∀ segment ∈ (fileSegments s).1, Undivided segment := by
  intro segment hs
  exact undivided_resolveFile (by simp) false segment (dropEmptyFront_subset _ hs)

theorem Path.undivided_text (h : ∀ s ∈ ss, Undivided s) : Undivided (Path.rooted ss).text :=
  Path.avoids_text rfl h

theorem Path.undivided_guarded {p : Path} (h : Undivided p.text) : Undivided p.guarded := by
  unfold Path.guarded
  split
  · have dot : Undivided ['/', '.'] := .cons rfl (.singleton rfl)
    exact dot.append h
  · exact h

/-- In front of its query and its fragment an address has none of their marks. -/
structure Address.Closed (u : Address) : Prop where
  scheme : Undivided u.scheme
  authority : ∀ a, u.authority = some a → Undivided a.text
  path : Undivided u.path.text

theorem Address.Closed.front {u : Address} (h : u.Closed) : Undivided u.front := by
  refine h.scheme.append (Undivided.cons rfl ?_)
  split
  · next a ha =>
    have slashes : Undivided ['/', '/'] := .cons rfl (.singleton rfl)
    exact (slashes.append (h.authority a ha)).append h.path
  · exact Path.undivided_guarded h.path

theorem avoids_credentialsOf (s : Text) :
    Text.Avoids escapedInCredentials (credentialsOf s).1 ∧
      Text.Avoids escapedInCredentials (credentialsOf s).2 := by
  unfold credentialsOf
  split
  · exact ⟨avoids_escapedInCredentials _, avoids_escapedInCredentials _⟩
  · exact ⟨avoids_escapedInCredentials s, .nil _⟩

theorem undivided_credentialsOf (s : Text) :
    Undivided (credentialsOf s).1 ∧ Undivided (credentialsOf s).2 := by
  obtain ⟨user, password⟩ := avoids_credentialsOf s
  exact ⟨user.mono fun _ => not_isDelimiter_of rfl rfl,
    password.mono fun _ => not_isDelimiter_of rfl rfl⟩

/-- Where the parts of an authority come from. -/
theorem authorityOf_eq_ok (h : authorityOf scheme s = .ok (a, rest)) :
    (∃ t, credentialsOf t = (a.user, a.password)) ∧
      (∃ t, hostOf (familyOf scheme) t = .ok a.host) ∧
      (a.port = none ∨ ∃ t, portOf scheme t = .ok (a.port, rest)) := by
  simp only [authorityOf, bind, Except.bind, pure, Except.pure, throw, throwThe,
    MonadExceptOf.throw] at h
  split at h
  · contradiction
  split at h
  · contradiction
  next host found =>
    split at h
    · split at h
      · contradiction
      split at h
      · contradiction
      next port read =>
        split at h
        · contradiction
        · cases h
          exact ⟨⟨_, rfl⟩, ⟨_, found⟩, .inr ⟨_, read⟩⟩
    · split at h
      · contradiction
      · cases h
        exact ⟨⟨_, rfl⟩, ⟨_, found⟩, .inl rfl⟩

theorem Authority.undivided_credentials {a : Authority} (hu : Undivided a.user)
    (hp : Undivided a.password) : Undivided a.credentials := by
  unfold Authority.credentials
  split
  · exact Undivided.nil
  · refine (hu.append ?_).append (.singleton rfl)
    split
    · exact Undivided.nil
    · exact Undivided.cons rfl hp

theorem undivided_authorityOf (h : authorityOf scheme s = .ok (a, rest)) : Undivided a.text := by
  obtain ⟨⟨credentials, hc⟩, ⟨name, hn⟩, -⟩ := authorityOf_eq_ok h
  obtain ⟨user, password⟩ := undivided_credentialsOf credentials
  rw [hc] at user password
  have host := Host.undivided_hostOf hn
  refine ((Authority.undivided_credentials user password).append host).append ?_
  split
  · exact Undivided.cons rfl (Undivided.decimal _)
  · exact Undivided.nil

theorem Tail.undivided_path (family : Family) (s : Text) :
    Undivided (Tail.ofText family s).path := by
  intro c hc
  have noQuery : (c == '?') = false := by
    simpa using List.all_eq_true.mp List.all_takeWhile c hc
  have front := List.takeWhile_subset _ hc
  have noFragment : (c == '#') = false := by
    simpa using List.all_eq_true.mp List.all_takeWhile c front
  rw [isDelimiter, noQuery, noFragment]
  rfl

/-- Parts of an address are cut at the marks that would end them. -/
theorem closed_withAuthority (hs : Undivided scheme) (h : withAuthority scheme s = .ok u) :
    u.Closed := by
  simp only [withAuthority, bind, Except.bind, pure, Except.pure] at h
  split at h
  · contradiction
  next r found =>
    cases h
    refine ⟨hs, ?_, ?_⟩
    · intro a ha
      cases ha
      exact undivided_authorityOf found
    · apply Path.undivided_text
      split
      · simp
      · exact undivided_resolve (by simp) (undivided_segmentsOf _ _)

theorem closed_ofOther (hs : Undivided scheme) (h : ofOther scheme s = .ok u) : u.Closed := by
  unfold ofOther at h
  split at h
  · exact closed_withAuthority hs h
  · cases h
    refine ⟨hs, by simp, ?_⟩
    simp only
    split
    · exact Path.undivided_text (undivided_resolve (by simp) (undivided_segmentsOf _ _))
    · exact Undivided.percentEncode fun c hc _ => Tail.undivided_path .other s c hc

theorem Authority.text_of_host (host : Host) : Authority.text { host } = host.text :=
  List.append_nil _

theorem closed_fileAddress (hh : Undivided host.text) (s : Text) : (fileAddress host s).Closed := by
  have scheme : Undivided "file".toList := by simp [Undivided, isDelimiter]
  refine ⟨scheme, ?_, Path.undivided_text (undivided_fileSegments _)⟩
  intro a ha
  cases ha
  rw [Authority.text_of_host]
  split
  · exact Undivided.nil
  · exact hh

theorem closed_ofFileHost (h : ofFileHost s = .ok u) : u.Closed := by
  have empty : Undivided (Host.name []).text := .nil
  simp only [ofFileHost, bind, Except.bind, pure, Except.pure] at h
  split at h
  · cases h
    exact closed_fileAddress empty s
  split at h
  · cases h
    exact closed_fileAddress empty _
  split at h
  · contradiction
  next host found =>
    split at h
    · cases h
      exact closed_fileAddress empty _
    · cases h
      exact closed_fileAddress (Host.undivided_ofDomain found) _

theorem closed_ofFile (h : ofFile s = .ok u) : u.Closed := by
  have empty : Undivided (Host.name []).text := .nil
  unfold ofFile at h
  split at h
  · cases h
    exact closed_fileAddress empty s
  split at h
  · cases h
    exact closed_fileAddress empty _
  · exact closed_ofFileHost h

theorem undivided_scheme? (h : scheme? s = some (scheme, rest)) : Undivided scheme := by
  unfold scheme? at h
  split at h
  · split at h
    · cases h
      refine Text.Avoids.map_toLower (p := isDelimiter) (by decide) ?_
      intro c hc
      have allowed : isSchemeChar c = true := List.all_eq_true.mp List.all_takeWhile c hc
      apply not_isDelimiter_of (p := fun d => !isSchemeChar d) rfl rfl
      simp [allowed]
    · contradiction
  · contradiction

/-- Parsed addresses have the marks of a query and a fragment only where these begin. -/
theorem Address.closed_parse (h : Address.parse s = .ok u) : u.Closed := by
  unfold Address.parse at h
  split at h
  · next scheme rest found =>
    have hs := undivided_scheme? found
    unfold ofScheme at h
    split at h
    · exact closed_ofFile h
    · exact closed_withAuthority hs h
    · exact closed_ofOther hs h
  · contradiction

end Descramble.Url
