import Descramble.Proofs.Text.Avoids
import Descramble.Proofs.Text.Utf8
import Descramble.Url.Percent

namespace Descramble.Url

open Text (Avoids)

theorem hexDigit_lt : ∀ n < 16, (hexDigit n).toNat < 128 := by decide

theorem hexDigitValue?_hexDigit :
    ∀ n < 16, hexDigitValue? (UInt8.ofNat (hexDigit n).toNat) = some n := by decide

/-- An encoded text holds characters that need no escape, and those of escapes. -/
theorem mem_percentEncode (h : c ∈ percentEncode escapes s) :
    (c ∈ s ∧ escapes c = false) ∨ c = '%' ∨ ∃ n < 16, c = hexDigit n := by
  obtain ⟨d, hd, hc⟩ := List.mem_flatMap.mp h
  cases escaped : escapes d with
  | false =>
    simp only [escaped, Bool.false_eq_true, if_false, List.mem_singleton] at hc
    exact .inl ⟨hc ▸ hd, hc ▸ escaped⟩
  | true =>
    simp only [escaped, if_true] at hc
    obtain ⟨b, -, hb⟩ := List.mem_flatMap.mp hc
    have byte : b.toNat < 256 := b.toNat_lt
    simp only [percentByte, List.mem_cons, List.not_mem_nil, or_false] at hb
    rcases hb with rfl | rfl | rfl
    · exact .inr (.inl rfl)
    · exact .inr (.inr ⟨b.toNat / 16, by omega, rfl⟩)
    · exact .inr (.inr ⟨b.toNat % 16, by omega, rfl⟩)

/-- What is written in escapes needs none. -/
theorem avoids_percentEncode (mark : escapes '%' = false)
    (digits : ∀ n < 16, escapes (hexDigit n) = false) (s : Text) :
    Avoids escapes (percentEncode escapes s) := by
  intro c hc
  rcases mem_percentEncode hc with ⟨-, kept⟩ | rfl | ⟨n, hn, rfl⟩
  · exact kept
  · exact mark
  · exact digits n hn

theorem avoids_escapedInFragment (s : Text) :
    Avoids escapedInFragment (percentEncode escapedInFragment s) :=
  avoids_percentEncode rfl (by decide) s

theorem avoids_escapedInPath (s : Text) : Avoids escapedInPath (percentEncode escapedInPath s) :=
  avoids_percentEncode rfl (by decide) s

theorem avoids_escapedInCredentials (s : Text) :
    Avoids escapedInCredentials (percentEncode escapedInCredentials s) :=
  avoids_percentEncode rfl (by decide) s

theorem avoids_escapedInQuery (special : Bool) (s : Text) :
    Avoids (escapedInQuery special) (percentEncode (escapedInQuery special) s) :=
  avoids_percentEncode (by cases special <;> rfl) (by cases special <;> decide) s

theorem percentDecode_cons (h : b ≠ 37) (bytes : List UInt8) :
    percentDecode (b :: bytes) = b :: percentDecode bytes := by
  rw [percentDecode.eq_def]
  exact if_neg h

theorem percentDecode_of_plain (h : ∀ b ∈ bytes, b ≠ 37) : percentDecode bytes = bytes := by
  induction bytes with
  | nil => rfl
  | cons b bytes ih =>
    obtain ⟨hb, hbytes⟩ := List.forall_mem_cons.mp h
    rw [percentDecode_cons hb, ih hbytes]

/-- ASCII texts without a percent sign stand for themselves. -/
theorem percentDecode_utf8 (ascii : ∀ c ∈ s, c.toNat < 128) (plain : '%' ∉ s) :
    percentDecode (Text.utf8 s) = Text.utf8 s := by
  apply percentDecode_of_plain
  rw [Text.utf8_ascii ascii]
  intro b hb mark
  obtain ⟨c, hc, rfl⟩ := List.mem_map.mp hb
  have bound := ascii c hc
  have code : c.toNat = 37 := by
    rw [← Text.toNat_ofNat_of_lt (n := c.toNat) (by omega), mark]
    rfl
  have same : c = '%' := Char.toNat_inj.mp code
  exact plain (same ▸ hc)

theorem utf8_percentByte (b : UInt8) :
    Text.utf8 (percentByte b) =
      [37, UInt8.ofNat (hexDigit (b.toNat / 16)).toNat,
        UInt8.ofNat (hexDigit (b.toNat % 16)).toNat] := by
  have byte : b.toNat < 256 := b.toNat_lt
  have high := hexDigit_lt (b.toNat / 16) (by omega)
  have low := hexDigit_lt (b.toNat % 16) (by omega)
  simp only [Text.utf8, percentByte, List.flatMap_cons, List.flatMap_nil,
    Text.utf8EncodeChar_ascii high, Text.utf8EncodeChar_ascii low]
  rfl

/-- The escape of a byte is read as the byte, whatever follows. -/
theorem percentDecode_percentByte (b : UInt8) (bytes : List UInt8) :
    percentDecode (Text.utf8 (percentByte b) ++ bytes) = b :: percentDecode bytes := by
  have byte : b.toNat < 256 := b.toNat_lt
  have high := hexDigitValue?_hexDigit (b.toNat / 16) (by omega)
  have low := hexDigitValue?_hexDigit (b.toNat % 16) (by omega)
  have whole : 16 * (b.toNat / 16) + b.toNat % 16 = b.toNat := by omega
  rw [utf8_percentByte, List.cons_append, List.cons_append, List.singleton_append, percentDecode,
    if_pos rfl]
  simp only [high, low, whole, UInt8.ofNat_toNat]

end Descramble.Url
