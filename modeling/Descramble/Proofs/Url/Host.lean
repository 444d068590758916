import Descramble.Proofs.Url.Ipv6
import Descramble.Proofs.Url.Percent

namespace Descramble.Url

open Text (Avoids)

namespace Name

theorem directionOf_decimal (n : Nat) : ∀ c ∈ Text.decimal n, directionOf c = .european :=
  Text.forall_mem_toDigits (by omega) (by decide) n

theorem shown?_decimal (n : Nat) : shown? (Text.decimal n) = some (Text.decimal n) := by
  obtain ⟨c, ds, numeral, -⟩ := Text.decimal_cons n
  have digit : c.isDigit = true := Text.isDigit_of_mem_decimal (numeral ▸ List.mem_cons_self)
  have other : c ≠ 'x' := Text.ne_of_isDigit digit rfl
  have plain : "xn--".toList.isPrefixOf? (c :: ds) = none := by
    simp [List.isPrefixOf?, Ne.symm other]
  rw [numeral, shown?, plain]

/-- A name that is in ASCII already is not folded. -/
theorem ascii?_of_ascii (h : ∀ c ∈ s, c.toNat < 128) : ascii? s = some s := by
  have ascii : s.all (·.toNat < 128) = true := by simpa using h
  rw [ascii?, ascii]
  rfl

/-- Labels that are shown as they are make a name if nothing in them goes to the left. -/
theorem isName_of_shown (shown : ∀ label ∈ labels, shown? label = some label)
    (forward : ∀ label ∈ labels, ∀ c ∈ label, directionOf c ≠ .right ∧ directionOf c ≠ .arabic) :
    isName labels = true := by
  have all : labels.mapM shown? = some labels := by
    induction labels with
    | nil => rfl
    | cons label labels ih =>
      obtain ⟨first, shown⟩ := List.forall_mem_cons.mp shown
      simp [first, ih shown (List.forall_mem_cons.mp forward).2]
  have left : (labels.map (·.map directionOf)).all
      (fun d => !d.contains .right && !d.contains .arabic) = true := by
    rw [List.all_map, List.all_eq_true]
    intro label mem
    have right : Direction.right ∉ label.map directionOf := by
      intro back
      obtain ⟨c, hc, same⟩ := List.mem_map.mp back
      exact (forward label mem c hc).1 same
    have arabic : Direction.arabic ∉ label.map directionOf := by
      intro back
      obtain ⟨c, hc, same⟩ := List.mem_map.mp back
      exact (forward label mem c hc).2 same
    simp [right, arabic]
  rw [isName, all, Option.any_some, haveDirections]
  simp only [left, Bool.true_or]

/-- Numbers between dots make a name, which is then read as an address. -/
theorem isName_decimals (ns : List Nat) : isName (ns.map Text.decimal) = true := by
  apply isName_of_shown
  · intro label mem
    obtain ⟨n, -, rfl⟩ := List.mem_map.mp mem
    exact shown?_decimal n
  · intro label mem c hc
    obtain ⟨n, -, rfl⟩ := List.mem_map.mp mem
    rw [directionOf_decimal n c hc]
    exact ⟨nofun, nofun⟩

end Name

namespace Host

abbrev labelsOf (s : Text) : List Text := Text.pieces (· == '.') s

def ofLower (s : Text) : Except Fault Host :=
  if !Name.isName (labelsOf s) then .error .invalidHostName
  else if Ipv4.isNumeric (labelsOf s) then
    match Ipv4.ofLabels? (labelsOf s) with
    | some address => .ok (ipv4 address)
    | none => .error .invalidIpv4
  else .ok (name s)

/-- A host that is read from its own text. -/
inductive Canonical : Host → Prop
  | name (s : Text) (nonempty : s ≠ []) (allowed : Avoids isForbidden s)
      (lower : s.map Char.toLower = s) (isName : Name.isName (labelsOf s) = true)
      (other : Ipv4.isNumeric (labelsOf s) = false) : Canonical (name s)
  | ipv4 (address : Nat) (bound : address < 2 ^ 32) : Canonical (ipv4 address)
  | ipv6 (pieces : List Nat) (eight : pieces.length = 8) (bound : ∀ p ∈ pieces, p < 65536) :
      Canonical (ipv6 pieces)

theorem lt_of_not_isForbidden (h : isForbidden c = false) : c.toNat < 128 := by
  simp only [isForbidden, isUnprintable, Bool.or_eq_false_iff, decide_eq_false_iff_not] at h
  omega

/-- A name without forbidden characters is only put in lower case. -/
theorem ofDomain_eq (hs : s ≠ []) (allowed : Avoids isForbidden s) :
    ofDomain s = ofLower (s.map Char.toLower) := by
  -- The characters are ASCII, and no percent sign begins an escape.
  have ascii : ∀ c ∈ s, c.toNat < 128 := fun c hc => lt_of_not_isForbidden (allowed c hc)
  have decoded : (Text.ofUtf8? (percentDecode (Text.utf8 s))).bind Name.ascii? = some s := by
    rw [percentDecode_utf8 ascii (allowed.not_mem rfl), Text.ofUtf8?_utf8, Option.bind_some,
      Name.ascii?_of_ascii ascii]
  have clean : s.any isForbidden = false := List.any_eq_false.mpr (by simpa [Avoids] using allowed)
  have full : s.isEmpty = false := by simpa using hs
  unfold ofDomain
  split
  · exact absurd List.mem_cons_self (allowed.not_mem rfl)
  · rw [decoded]
    simp only [clean, full, Bool.false_eq_true, if_false]
    rfl

/-- A host is read from brackets, or from a name once its escapes are gone and it is in ASCII. -/
theorem ofDomain_eq_ok (h : ofDomain s = .ok host) :
    (∃ r, bracketed r = .ok host) ∨
      ∃ ascii, ascii ≠ [] ∧ Avoids isForbidden ascii ∧
        ofLower (ascii.map Char.toLower) = .ok host := by
  unfold ofDomain at h
  split at h
  · exact .inl ⟨_, h⟩
  · split at h
    · contradiction
    next ascii _ =>
      split at h
      · contradiction
      next clean =>
        split at h
        · contradiction
        next full =>
          exact .inr ⟨ascii, by simpa using full, by simpa [Avoids] using clean, h⟩

theorem ofDomain_name (h : Canonical (name s)) : ofDomain s = .ok (name s) := by
  cases h with
  | name s nonempty allowed lower isName other =>
    rw [ofDomain_eq nonempty allowed, lower, ofLower, isName, other]
    rfl

theorem isForbidden_digitChar : ∀ d < 16, isForbidden (Nat.digitChar d) = false := by decide

theorem allowed_ipv4 (address : Nat) : Avoids isForbidden (Ipv4.text address) :=
  Ipv4.forall_mem_text (P := (isForbidden · = false)) rfl
    (fun d hd => isForbidden_digitChar d (by omega)) address

/-- An address in decimal is read as an address and not as a name. -/
theorem ofDomain_ipv4 (h : address < 2 ^ 32) :
    ofDomain (Ipv4.text address) = .ok (ipv4 address) := by
  have lower : (Ipv4.text address).map Char.toLower = Ipv4.text address := by
    have digits : ∀ c ∈ Ipv4.text address, c.toLower = id c :=
      Ipv4.forall_mem_text (P := fun c => c.toLower = c) rfl (by decide) address
    rw [List.map_congr_left digits, List.map_id]
  have isName : Name.isName (labelsOf (Ipv4.text address)) = true := by
    rw [labelsOf, Ipv4.labels_text, Name.isName_decimals]
  rw [ofDomain_eq (Ipv4.text_ne_nil address) (allowed_ipv4 address), lower, ofLower, isName,
    Ipv4.isNumeric_text, Ipv4.ofLabels?_text h]
  rfl

theorem bracketed_text (h : Ipv6.ofText? s = some pieces) :
    bracketed (s ++ [']']) = .ok (ipv6 pieces) := by
  simp [bracketed, h]

/-- A canonical host is read from its text. -/
theorem ofDomain_text (h : Canonical host) : ofDomain host.text = .ok host := by
  cases h with
  | name s nonempty allowed lower isName other =>
    exact ofDomain_name (.name s nonempty allowed lower isName other)
  | ipv4 address bound => exact ofDomain_ipv4 bound
  | ipv6 pieces eight bound => exact bracketed_text (Ipv6.ofText?_text eight bound)

/-- A host in lower case is read from its own text. -/
theorem canonical_ofLower (hs : s ≠ []) (allowed : Avoids isForbidden s)
    (lower : s.map Char.toLower = s) (h : ofLower s = .ok host) : host.Canonical := by
  unfold ofLower at h
  split at h
  · contradiction
  next isName =>
    split at h
    · split at h
      · next address found =>
        cases h
        exact .ipv4 address (Ipv4.ofLabels?_lt found)
      · contradiction
    · next other =>
      cases h
      exact .name s hs allowed lower (by simpa using isName) (by simpa using other)

theorem canonical_bracketed (h : bracketed s = .ok host) : host.Canonical := by
  unfold bracketed at h
  split at h
  · split at h
    · next pieces found =>
      cases h
      obtain ⟨eight, bound⟩ := Ipv6.ofText?_bounds found
      exact .ipv6 pieces eight bound
    · contradiction
  · contradiction

/-- Whatever host is read is canonical. -/
theorem canonical_ofDomain (h : ofDomain s = .ok host) : host.Canonical := by
  rcases ofDomain_eq_ok h with ⟨r, h⟩ | ⟨ascii, full, allowed, h⟩
  · exact canonical_bracketed h
  · have lower : (ascii.map Char.toLower).map Char.toLower = ascii.map Char.toLower := by
      rw [List.map_map]
      exact List.map_congr_left fun c _ => Text.toLower_toLower c
    exact canonical_ofLower (by simpa using full) (allowed.map_toLower (by decide)) lower h

/-- Capitals beyond ASCII are small letters of the name. -/
example : (ofDomain "B%C3%9CCHER.de".toList).toOption = some (.name "xn--bcher-kva.de".toList) := by
  decide +kernel

theorem Canonical.text_cases (h : Canonical host) :
    Avoids isForbidden host.text ∨ ∃ pieces, host.text = '[' :: (Ipv6.text pieces ++ [']']) := by
  cases h with
  | name s _ allowed _ _ _ => exact .inl allowed
  | ipv4 address _ => exact .inl (allowed_ipv4 address)
  | ipv6 pieces _ _ => exact .inr ⟨pieces, rfl⟩

theorem avoids_ipv6 {p : Char → Bool} (others : ∀ c, isForbidden c = false → p c = false)
    (colon : p ':' = false) (pieces : List Nat) : Avoids p (Ipv6.text pieces) :=
  Ipv6.forall_mem_text (P := (p · = false)) colon
    (fun d hd => others _ (isForbidden_digitChar d hd)) pieces

/-- Brackets and colons aside, the characters of a host are those that names may have. -/
theorem Canonical.avoids (h : Canonical host) (others : ∀ c, isForbidden c = false → p c = false)
    (opening : p '[' = false) (closing : p ']' = false) (colon : p ':' = false) :
    Avoids p host.text := by
  rcases h.text_cases with allowed | ⟨pieces, brackets⟩
  · exact allowed.mono others
  · rw [brackets]
    exact .cons opening ((avoids_ipv6 others colon pieces).append (.cons closing (.nil p)))

theorem Canonical.text_ne_nil (h : Canonical host) : host.text ≠ [] := by
  cases h with
  | name s nonempty _ _ _ _ => exact nonempty
  | ipv4 address _ => exact Ipv4.text_ne_nil address
  | ipv6 pieces _ _ => exact List.cons_ne_nil _ _

theorem Canonical.isEmpty (h : Canonical host) : host.isEmpty = false := by
  cases h with
  | name s nonempty _ _ _ _ => simpa [Host.isEmpty] using nonempty
  | ipv4 address _ => rfl
  | ipv6 pieces _ _ => rfl

end Host
end Descramble.Url
