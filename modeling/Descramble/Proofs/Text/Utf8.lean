import Mathlib.Data.List.Basic
import Descramble.Text.Utf8

namespace Descramble.Text

namespace Pending

theorem ofLead?_ascii (h : b < 0x80) : ofLead? b = some ⟨0, b, 0x80, 0xBF⟩ := if_pos h

theorem ofLead?_two (lower : 0xC2 ≤ b) (upper : b < 0xE0) :
    ofLead? b = some ⟨1, b - 0xC0, 0x80, 0xBF⟩ := by
  have past : ¬ b < 0x80 ∧ ¬ b < 0xC2 := by omega
  simp only [ofLead?, past, upper, if_true, if_false]

/-- The byte behind `E0` is high enough for no shorter form, and the one behind `ED` low enough for
no surrogate. -/
theorem ofLead?_three (lower : 0xE0 ≤ b) (upper : b < 0xF0) :
    ofLead? b =
      some ⟨2, b - 0xE0, if b = 0xE0 then 0xA0 else 0x80, if b = 0xED then 0x9F else 0xBF⟩ := by
  have past : ¬ b < 0x80 ∧ ¬ b < 0xC2 ∧ ¬ b < 0xE0 := by omega
  simp only [ofLead?, past, upper, if_true, if_false]
  by_cases first : b = 0xE0
  · simp [first]
  · by_cases surrogate : b = 0xED
    · simp [surrogate]
    · simp only [first, surrogate, if_false]

/-- The byte behind `F0` is high enough for no shorter form, and the one behind `F4` low enough for
the last code point. -/
theorem ofLead?_four (lower : 0xF0 ≤ b) (upper : b ≤ 0xF4) :
    ofLead? b =
      some ⟨3, b - 0xF0, if b = 0xF0 then 0x90 else 0x80, if b = 0xF4 then 0x8F else 0xBF⟩ := by
  have past : ¬ b < 0x80 ∧ ¬ b < 0xC2 ∧ ¬ b < 0xE0 ∧ ¬ b < 0xF0 ∧ b ≠ 0xE0 ∧ b ≠ 0xED := by omega
  simp only [ofLead?, past, if_false]
  by_cases first : b = 0xF0
  · simp [first]
  · by_cases last : b = 0xF4
    · simp [last]
    · have between : b < 0xF4 := by omega
      simp only [first, last, between, if_true, if_false]

end Pending

theorem toNat_ofNat_of_lt (h : n < 256) : (UInt8.ofNat n).toNat = n := Nat.mod_eq_of_lt h

theorem decodeFrom_first (hb : b < 256)
    (h : Pending.ofLead? b = some ⟨needed + 1, bits, lower, upper⟩) (bytes : List UInt8) :
    decodeFrom none (UInt8.ofNat b :: bytes) =
      decodeFrom (some ⟨needed + 1, bits, lower, upper⟩) bytes := by
  rw [decodeFrom, decodeByte, decodeLead, toNat_ofNat_of_lt hb, h]
  rfl

/-- A later byte brings six bits. -/
theorem decodeByte_later (hl : p.lower ≤ d % 64 + 128) (hu : d % 64 + 128 ≤ p.upper) :
    decodeByte (some p) (UInt8.ofNat (d % 64 + 128)).toNat =
      if p.needed ≤ 1 then ([some (Char.ofNat (p.bits * 64 + d % 64))], none)
      else ([], some ⟨p.needed - 1, p.bits * 64 + d % 64, 0x80, 0xBF⟩) := by
  have byte : (UInt8.ofNat (d % 64 + 128)).toNat = d % 64 + 128 := toNat_ofNat_of_lt (by omega)
  have six : (d % 64 + 128) % 64 = d % 64 := by omega
  rw [decodeByte, byte, if_pos ⟨hl, hu⟩, six]

theorem decodeFrom_next (hl : lower ≤ d % 64 + 128) (hu : d % 64 + 128 ≤ upper)
    (bytes : List UInt8) :
    decodeFrom (some ⟨needed + 2, bits, lower, upper⟩) (UInt8.ofNat (d % 64 + 128) :: bytes) =
      decodeFrom (some ⟨needed + 1, bits * 64 + d % 64, 0x80, 0xBF⟩) bytes := by
  rw [decodeFrom, decodeByte_later hl hu]
  rfl

theorem decodeFrom_last (hl : lower ≤ d % 64 + 128) (hu : d % 64 + 128 ≤ upper)
    (bytes : List UInt8) :
    decodeFrom (some ⟨1, bits, lower, upper⟩) (UInt8.ofNat (d % 64 + 128) :: bytes) =
      some (Char.ofNat (bits * 64 + d % 64)) :: decodeFrom none bytes := by
  rw [decodeFrom, decodeByte_later hl hu]
  rfl

theorem decodeFrom_ascii (h : n < 0x80) (bytes : List UInt8) :
    decodeFrom none (UInt8.ofNat n :: bytes) = some (Char.ofNat n) :: decodeFrom none bytes := by
  rw [decodeFrom, decodeByte, decodeLead, toNat_ofNat_of_lt (by omega), Pending.ofLead?_ascii h]
  rfl

theorem decodeFrom_two (lower : 0x80 ≤ n) (upper : n < 0x800) (bytes : List UInt8) :
    decodeFrom none (UInt8.ofNat (n / 64 % 32 + 192) :: UInt8.ofNat (n % 64 + 128) :: bytes) =
      some (Char.ofNat n) :: decodeFrom none bytes := by
  have bits : (n / 64 % 32 + 192 - 192) * 64 + n % 64 = n := by omega
  rw [decodeFrom_first (by omega) (Pending.ofLead?_two (by omega) (by omega)),
    decodeFrom_last (by omega) (by omega), bits]

theorem decodeFrom_three (lower : 0x800 ≤ n) (upper : n < 0x10000)
    (scalar : n < 0xD800 ∨ 0xDFFF < n) (bytes : List UInt8) :
    decodeFrom none (UInt8.ofNat (n / 4096 % 16 + 224) :: UInt8.ofNat (n / 64 % 64 + 128) ::
        UInt8.ofNat (n % 64 + 128) :: bytes) =
      some (Char.ofNat n) :: decodeFrom none bytes := by
  have bits : ((n / 4096 % 16 + 224 - 224) * 64 + n / 64 % 64) * 64 + n % 64 = n := by omega
  rw [decodeFrom_first (by omega) (Pending.ofLead?_three (by omega) (by omega)),
    decodeFrom_next (by split <;> omega) (by split <;> omega),
    decodeFrom_last (by omega) (by omega), bits]

theorem decodeFrom_four (lower : 0x10000 ≤ n) (upper : n < 0x110000) (bytes : List UInt8) :
    decodeFrom none (UInt8.ofNat (n / 262144 % 8 + 240) :: UInt8.ofNat (n / 4096 % 64 + 128) ::
        UInt8.ofNat (n / 64 % 64 + 128) :: UInt8.ofNat (n % 64 + 128) :: bytes) =
      some (Char.ofNat n) :: decodeFrom none bytes := by
  have bits : (((n / 262144 % 8 + 240 - 240) * 64 + n / 4096 % 64) * 64 + n / 64 % 64) * 64 +
      n % 64 = n := by omega
  rw [decodeFrom_first (by omega) (Pending.ofLead?_four (by omega) (by omega)),
    decodeFrom_next (by split <;> omega) (by split <;> omega),
    decodeFrom_next (by omega) (by omega), decodeFrom_last (by omega) (by omega), bits]

/-- The bytes of a character are read as the character, whatever follows. -/
theorem decodeFrom_utf8EncodeChar (c : Char) (bytes : List UInt8) :
    decodeFrom none (String.utf8EncodeChar c ++ bytes) = some c :: decodeFrom none bytes := by
  have scalar : c.val.toNat < 0xD800 ∨ 0xDFFF < c.val.toNat ∧ c.val.toNat < 0x110000 := c.valid
  have self : Char.ofNat c.val.toNat = c := Char.ofNat_toNat c
  unfold String.utf8EncodeChar
  by_cases one : c.val.toNat ≤ 127
  · rw [if_pos one, List.singleton_append, decodeFrom_ascii (by omega), self]
  by_cases two : c.val.toNat ≤ 2047
  · rw [if_neg one, if_pos two]
    exact (decodeFrom_two (by omega) (by omega) bytes).trans (by rw [self])
  by_cases three : c.val.toNat ≤ 65535
  · rw [if_neg one, if_neg two, if_pos three]
    exact (decodeFrom_three (by omega) (by omega) (by omega) bytes).trans (by rw [self])
  · rw [if_neg one, if_neg two, if_neg three]
    exact (decodeFrom_four (by omega) (by omega) bytes).trans (by rw [self])

theorem decodeFrom_utf8 (s : Text) : decodeFrom none (utf8 s) = s.map some := by
  induction s with
  | nil => rfl
  | cons c s ih =>
    rw [utf8, List.flatMap_cons, decodeFrom_utf8EncodeChar]
    exact congrArg (some c :: ·) ih

theorem ofUtf8Lossy_utf8 (s : Text) : ofUtf8Lossy (utf8 s) = s := by
  rw [ofUtf8Lossy, decodeFrom_utf8, List.map_map]
  exact List.map_id s

theorem ofUtf8?_utf8 (s : Text) : ofUtf8? (utf8 s) = some s := by
  rw [ofUtf8?, decodeFrom_utf8]
  induction s with
  | nil => rfl
  | cons c s ih => simp [ih]

theorem utf8_append (s t : Text) : utf8 (s ++ t) = utf8 s ++ utf8 t := List.flatMap_append

/-- The byte of an ASCII character is its code point. -/
theorem utf8EncodeChar_ascii (h : c.toNat < 128) :
    String.utf8EncodeChar c = [UInt8.ofNat c.toNat] := by
  have one : c.val.toNat ≤ 127 := Nat.le_of_lt_succ h
  unfold String.utf8EncodeChar
  rw [if_pos one]
  rfl

theorem utf8_ascii (h : ∀ c ∈ s, c.toNat < 128) :
    utf8 s = s.map fun c => UInt8.ofNat c.toNat := by
  induction s with
  | nil => rfl
  | cons c s ih =>
    obtain ⟨hc, hs⟩ := List.forall_mem_cons.mp h
    rw [utf8, List.flatMap_cons, utf8EncodeChar_ascii hc]
    exact congrArg _ (ih hs)

end Descramble.Text
