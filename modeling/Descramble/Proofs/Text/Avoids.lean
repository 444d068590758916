import Descramble.Proofs.Text.Decimal
import Descramble.Proofs.Text.Pieces

namespace Descramble.Text

/-- A character in lower case is a small letter, unless it is as it was. -/
theorem toLower_cases (c : Char) :
    c.toLower = c ∨ ∃ n < 26, c.toLower = Char.ofNat (97 + n) := by
  by_cases upper : c.val ≥ 'A'.val ∧ c.val ≤ 'Z'.val
  · right
    have first : 65 ≤ c.val.toNat := upper.1
    have last : c.val.toNat ≤ 90 := upper.2
    refine ⟨c.val.toNat - 65, by omega, ?_⟩
    have code : c.toLower.toNat = c.val.toNat + 32 := by
      unfold Char.toLower
      rw [dif_pos upper]
      simp only [Char.toNat, UInt32.toNat_add]
      change (c.val.toNat + 32) % 4294967296 = _
      omega
    rw [← Char.ofNat_toNat c.toLower, code]
    congr 1
    omega
  · exact .inl (dif_neg upper)

theorem toLower_toLower (c : Char) : c.toLower.toLower = c.toLower := by
  have small : ∀ n < 26, (Char.ofNat (97 + n)).toLower = Char.ofNat (97 + n) := by decide
  rcases toLower_cases c with same | ⟨n, hn, lower⟩
  · rw [same, same]
  · rw [lower, small n hn]

theorem ne_of_test {p : Char → Bool} (hc : p c = false) (hd : p d = true) : c ≠ d := by
  rintro rfl
  rw [hc] at hd
  contradiction

/-- No character of the text passes the test. -/
def Avoids (p : Char → Bool) (s : Text) : Prop := ∀ c ∈ s, p c = false

namespace Avoids

variable {p q : Char → Bool} {s t : Text} {c : Char}

theorem nil (p : Char → Bool) : Avoids p [] := by simp [Avoids]

theorem cons (hc : p c = false) (hs : Avoids p s) : Avoids p (c :: s) :=
  List.forall_mem_cons.mpr ⟨hc, hs⟩

theorem append (hs : Avoids p s) (ht : Avoids p t) : Avoids p (s ++ t) :=
  List.forall_mem_append.mpr ⟨hs, ht⟩

theorem mono (h : Avoids p s) (weaker : ∀ c, p c = false → q c = false) : Avoids q s :=
  fun c hc => weaker c (h c hc)

theorem not_mem (h : Avoids p s) (hc : p c = true) : c ∉ s :=
  fun mem => ne_of_test (h c mem) hc rfl

theorem takeWhile_append (hs : Avoids p s) (ht : ∀ c ∈ t.head?, p c = true) :
    (s ++ t).takeWhile (!p ·) = s := by
  have kept : ∀ c ∈ s, (!p c) = true := by simpa [Avoids] using hs
  rw [List.takeWhile_append_of_pos kept]
  cases t with
  | nil => simp
  | cons c t => rw [List.takeWhile_cons_of_neg (by simp [ht c rfl]), List.append_nil]

theorem dropWhile_append (hs : Avoids p s) (ht : ∀ c ∈ t.head?, p c = true) :
    (s ++ t).dropWhile (!p ·) = t := by
  have kept : ∀ c ∈ s, (!p c) = true := by simpa [Avoids] using hs
  rw [List.dropWhile_append_of_pos kept]
  cases t with
  | nil => rfl
  | cons c t => rw [List.dropWhile_cons_of_neg (by simp [ht c rfl])]

theorem dropWhile_eq_self (h : Avoids p s) : s.dropWhile p = s := by
  cases s with
  | nil => rfl
  | cons c s => rw [List.dropWhile_cons_of_neg (by simp [h c List.mem_cons_self])]

/-- Small letters are all that lower case can add. -/
theorem map_toLower (letters : ∀ n < 26, p (Char.ofNat (97 + n)) = false)
    (h : Avoids p s) : Avoids p (s.map Char.toLower) := by
  intro d hd
  obtain ⟨c, hc, rfl⟩ := List.mem_map.mp hd
  rcases toLower_cases c with same | ⟨n, hn, lower⟩
  · rw [same]
    exact h c hc
  · rw [lower]
    exact letters n hn

end Avoids

theorem avoids_decimal {p : Char → Bool} (digits : ∀ d < 10, p (Nat.digitChar d) = false)
    (n : Nat) : Avoids p (decimal n) :=
  forall_mem_toDigits (by omega) digits n

theorem pieces_of_avoids (h : Avoids p s) : pieces p s = [s] := by
  rw [pieces_eq_splitOnP]
  exact List.splitOnP_eq_singleton h

/-- No separator is left in a piece. -/
theorem pieces_avoid (p : Char → Bool) (s : Text) : ∀ piece ∈ pieces p s, Avoids p piece := by
  induction s with
  | nil => simp [pieces, Avoids]
  | cons c s ih =>
    cases hs : pieces p s with
    | nil => exact absurd hs (pieces_ne_nil p s)
    | cons first rest =>
      rw [hs] at ih
      obtain ⟨first, rest⟩ := List.forall_mem_cons.mp ih
      cases hc : p c with
      | true => simpa [pieces, hc, hs] using ⟨Avoids.nil p, first, rest⟩
      | false => simpa [pieces, hc, hs] using ⟨first.cons hc, rest⟩

/-- The first piece ends at the first separator. -/
theorem pieces_append_of_avoids (hc : p c = true) (hs : Avoids p s) (t : Text) :
    pieces p (s ++ c :: t) = s :: pieces p t := by
  rw [pieces_append_cons hc, pieces_of_avoids hs, List.singleton_append]

/-- A text that is put together behind separators is taken apart at them. -/
theorem pieces_flatMap (hc : p c = true) (hs : Avoids p s) (hps : ∀ piece ∈ ps, Avoids p piece) :
    pieces p (s ++ ps.flatMap (c :: ·)) = s :: ps := by
  induction ps generalizing s with
  | nil => simpa using pieces_of_avoids hs
  | cons piece ps ih =>
    obtain ⟨hpiece, hps⟩ := List.forall_mem_cons.mp hps
    rw [List.flatMap_cons, List.cons_append, pieces_append_of_avoids hc hs, ih hpiece hps]

theorem splitLast?_append (h : stop ∉ behind) :
    splitLast? stop (before ++ stop :: behind) = some (before, behind) := by
  have back : (before ++ stop :: behind).reverse = behind.reverse ++ stop :: before.reverse := by
    simp
  rw [splitLast?, back, upTo?_append (by simpa using h)]
  simp

theorem upTo?_eq_none (h : stop ∉ s) : upTo? stop s = none := by
  cases hs : upTo? stop s with
  | none => rfl
  | some found =>
    obtain ⟨rfl, -⟩ := upTo?_eq_some hs
    simp at h

theorem splitLast?_eq_none (h : stop ∉ s) : splitLast? stop s = none := by
  rw [splitLast?, upTo?_eq_none (by simpa using h), Option.map_none]

end Descramble.Text
