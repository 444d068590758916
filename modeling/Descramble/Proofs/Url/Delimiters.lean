import Descramble.Proofs.Url.Host
import Descramble.Url.Parse

namespace Descramble.Url

open Text (Avoids)

def isDelimiter (c : Char) : Bool := c == '?' || c == '#'

/-- No query and no fragment begins in the text. -/
def Undivided (s : Text) : Prop := ∀ c ∈ s, isDelimiter c = false

/-- A character that fails a test which both marks pass is none of them. -/
theorem not_isDelimiter_of {p : Char → Bool} (hq : p '?' = true) (hf : p '#' = true)
    (hc : p c = false) : isDelimiter c = false := by
  simp [isDelimiter, Text.ne_of_test hc hq, Text.ne_of_test hc hf]

theorem isDelimiter_hexDigit : ∀ n < 16, isDelimiter (hexDigit n) = false := by decide

namespace Undivided

theorem nil : Undivided [] := Avoids.nil isDelimiter

theorem append (hs : Undivided s) (ht : Undivided t) : Undivided (s ++ t) := Avoids.append hs ht

theorem cons (hc : isDelimiter c = false) (hs : Undivided s) : Undivided (c :: s) :=
  Avoids.cons hc hs

theorem singleton (hc : isDelimiter c = false) : Undivided [c] := nil.cons hc

theorem bne (hs : Undivided s) (hd : isDelimiter d = true) : ∀ c ∈ s, (c != d) = true := by
  intro c hc
  simpa using Text.ne_of_test (hs c hc) hd

theorem of_subset (h : t ⊆ s) (hs : Undivided s) : Undivided t := fun c hc => hs c (h hc)

theorem take (n : Nat) (hs : Undivided s) : Undivided (s.take n) :=
  hs.of_subset (List.take_subset n s)

theorem drop (n : Nat) (hs : Undivided s) : Undivided (s.drop n) :=
  hs.of_subset (List.drop_subset n s)

theorem decimal (n : Nat) : Undivided (Text.decimal n) :=
  Text.avoids_decimal (by decide) n

/-- It is enough that the marks are escaped or that there are none. -/
theorem percentEncode (h : ∀ c ∈ s, escapes c = false → isDelimiter c = false) :
    Undivided (percentEncode escapes s) := by
  intro c hc
  rcases mem_percentEncode hc with ⟨hs, kept⟩ | rfl | ⟨n, hn, rfl⟩
  · exact h c hs kept
  · rfl
  · exact isDelimiter_hexDigit n hn

theorem escapedInPath (s : Text) : Undivided (Url.percentEncode Url.escapedInPath s) :=
  (avoids_escapedInPath s).mono fun _ => not_isDelimiter_of rfl rfl

end Undivided

namespace Host

theorem Canonical.undivided (h : Canonical host) : Undivided host.text :=
  h.avoids (fun _ => not_isDelimiter_of rfl rfl) rfl rfl rfl

theorem undivided_ofDomain (h : ofDomain s = .ok host) : Undivided host.text :=
  (canonical_ofDomain h).undivided

theorem undivided_ofOpaque (h : ofOpaque s = .ok host) : Undivided host.text := by
  unfold ofOpaque at h
  split at h
  · exact (canonical_bracketed h).undivided
  · split at h
    · contradiction
    · next allowed =>
      cases h
      apply Undivided.percentEncode
      intro c hc _
      apply not_isDelimiter_of (p := isReserved) rfl rfl
      simpa using fun reserved => allowed (List.any_eq_true.mpr ⟨c, hc, reserved⟩)

theorem undivided_hostOf (h : hostOf family s = .ok host) : Undivided host.text := by
  unfold hostOf at h
  split at h
  · exact undivided_ofOpaque h
  · split at h
    · contradiction
    · exact undivided_ofDomain h

end Host

end Descramble.Url
