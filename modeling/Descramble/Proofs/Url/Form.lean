import Descramble.Proofs.Text.Pieces
import Descramble.Proofs.Url.Percent
import Descramble.Url.Query

namespace Descramble.Url.Form

def isEncoded (c : Char) : Bool :=
  (c.toNat < 128 && isPlain (UInt8.ofNat c.toNat)) || c == '+' || c == '%'

def spaced (c : Char) : Char := if c = '+' then ' ' else c

theorem decode_eq (s : Text) :
    decode s = Text.ofUtf8Lossy (percentDecode (Text.utf8 (s.map spaced))) := rfl

/-- Plain bytes are those of ASCII characters other than the percent sign and the plus sign. -/
theorem isPlain_bounds (h : isPlain b = true) : b.toNat < 128 ∧ b.toNat ≠ 37 ∧ b.toNat ≠ 43 := by
  simp only [isPlain, Bool.or_eq_true, Bool.and_eq_true, decide_eq_true_eq, List.contains_cons,
    List.contains_nil, beq_iff_eq, Bool.or_false] at h
  omega

theorem toNat_of_isPlain (h : isPlain b = true) : (Char.ofNat b.toNat).toNat = b.toNat := by
  have bounds := isPlain_bounds h
  have scalar : b.toNat.isValidChar := .inl (by omega)
  rw [Char.ofNat, dif_pos scalar]
  rfl

theorem isEncoded_hexDigit : ∀ n < 16, isEncoded (hexDigit n) = true := by decide

/-- Encoded texts have no character that parts fields, or a query from the rest of an address. -/
theorem isEncoded_of_mem_encode (h : c ∈ encode s) : isEncoded c = true := by
  obtain ⟨b, -, hc⟩ := List.mem_flatMap.mp h
  have byte : b.toNat < 256 := b.toNat_lt
  unfold encodeByte at hc
  split at hc
  · next plain =>
    rw [List.mem_singleton.mp hc]
    simp [isEncoded, toNat_of_isPlain plain, (isPlain_bounds plain).1, plain]
  · split at hc
    · rw [List.mem_singleton.mp hc]
      rfl
    · simp only [percentByte, List.mem_cons, List.not_mem_nil, or_false] at hc
      rcases hc with rfl | rfl | rfl
      · rfl
      · exact isEncoded_hexDigit (b.toNat / 16) (by omega)
      · exact isEncoded_hexDigit (b.toNat % 16) (by omega)

theorem not_mem_encode (hc : isEncoded c = false) (s : Text) : c ∉ encode s := by
  intro h
  rw [isEncoded_of_mem_encode h] at hc
  contradiction

theorem spaced_hexDigit : ∀ n < 16, spaced (hexDigit n) = hexDigit n := by decide

/-- An encoded byte is read as the byte, whatever follows. -/
theorem percentDecode_encodeByte (b : UInt8) (bytes : List UInt8) :
    percentDecode (Text.utf8 ((encodeByte b).map spaced) ++ bytes) = b :: percentDecode bytes := by
  have byte : b.toNat < 256 := b.toNat_lt
  unfold encodeByte
  split
  · next plain =>
    obtain ⟨ascii, noPercent, noPlus⟩ := isPlain_bounds plain
    have code := toNat_of_isPlain plain
    have kept : spaced (Char.ofNat b.toNat) = Char.ofNat b.toNat := by
      apply if_neg
      intro plus
      rw [plus] at code
      exact noPlus code.symm
    have self : Text.utf8 [Char.ofNat b.toNat] = [b] := by
      simp only [Text.utf8, List.flatMap_singleton]
      rw [Text.utf8EncodeChar_ascii (by omega), code, UInt8.ofNat_toNat]
    rw [List.map_singleton, kept, self, List.singleton_append]
    apply percentDecode_cons
    rintro rfl
    exact noPercent rfl
  · split
    · next space =>
      rw [space]
      exact percentDecode_cons (by decide) bytes
    · have kept : (percentByte b).map spaced = percentByte b := by
        simp only [percentByte, List.map_cons, List.map_nil,
          spaced_hexDigit (b.toNat / 16) (by omega), spaced_hexDigit (b.toNat % 16) (by omega)]
        rfl
      rw [kept, percentDecode_percentByte]

theorem percentDecode_encoded (bs : List UInt8) :
    percentDecode (Text.utf8 ((bs.flatMap encodeByte).map spaced)) = bs := by
  induction bs with
  | nil => rfl
  | cons b bs ih =>
    rw [List.flatMap_cons, List.map_append, Text.utf8_append, percentDecode_encodeByte, ih]

theorem decode_encode (s : Text) : decode (encode s) = s := by
  rw [decode_eq, encode, percentDecode_encoded, Text.ofUtf8Lossy_utf8]

theorem fieldOf_fieldText (f : Field) : fieldOf (fieldText f) = f := by
  rw [fieldOf, fieldText, Text.upTo?_append (not_mem_encode rfl f.1)]
  simp only [decode_encode]

theorem ampersand_not_mem_fieldText (f : Field) : '&' ∉ fieldText f := by
  simp [fieldText, not_mem_encode (c := '&') rfl]

theorem fieldText_ne_nil (f : Field) : fieldText f ≠ [] := by simp [fieldText]

/-- The fields of a query are read back, those with empty keys or values among them. -/
theorem fields_text (fs : List Field) : fields (text fs) = fs := by
  cases fs with
  | nil => rfl
  | cons f fs =>
    have split : Text.pieces (· == '&') (text (f :: fs)) = (f :: fs).map fieldText := by
      apply Text.pieces_join
      · intro p hp
        obtain ⟨g, -, rfl⟩ := List.mem_map.mp hp
        exact ampersand_not_mem_fieldText g
      · simp
    have full : ((f :: fs).map fieldText).filter (!·.isEmpty) = (f :: fs).map fieldText := by
      apply List.filter_eq_self.mpr
      intro p hp
      obtain ⟨g, -, rfl⟩ := List.mem_map.mp hp
      simp [fieldText_ne_nil]
    have read : fieldOf ∘ fieldText = id := funext fieldOf_fieldText
    rw [fields, split, full, List.map_map, read, List.map_id]

/-- The characters of a query that is written from fields. -/
theorem mem_text (h : c ∈ text fs) : isEncoded c = true ∨ c = '&' ∨ c = '=' := by
  rcases Text.mem_join h with h | ⟨p, hp, hc⟩
  · exact .inr (.inl (List.mem_singleton.mp h))
  · obtain ⟨f, -, rfl⟩ := List.mem_map.mp hp
    rcases List.mem_append.mp hc with hc | hc
    · exact .inl (isEncoded_of_mem_encode hc)
    · rcases List.mem_cons.mp hc with hc | hc
      · exact .inr (.inr hc)
      · exact .inl (isEncoded_of_mem_encode hc)

theorem not_escapedInQuery_plain :
    ∀ n < 128, isPlain (UInt8.ofNat n) = true → escapedInQuery true (Char.ofNat n) = false := by
  decide

theorem not_escapedInQuery (h : isEncoded c = true) : escapedInQuery true c = false := by
  simp only [isEncoded, Bool.or_eq_true, Bool.and_eq_true, decide_eq_true_eq, beq_iff_eq] at h
  rcases h with (⟨ascii, plain⟩ | rfl) | rfl
  · rw [← Char.ofNat_toNat c]
    exact not_escapedInQuery_plain c.toNat ascii plain
  · rfl
  · rfl

/-- A query that is written from fields needs no escapes. -/
theorem avoids_text (fs : List Field) : Text.Avoids (escapedInQuery true) (text fs) := by
  intro c hc
  rcases mem_text hc with encoded | rfl | rfl
  · exact not_escapedInQuery encoded
  · rfl
  · rfl

end Descramble.Url.Form
