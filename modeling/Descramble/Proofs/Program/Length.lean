import Mathlib.Data.Nat.Find
import Descramble.Program.Apply

namespace Descramble

/-- How many characters an operation removes when there are enough. -/
def Operation.cut : Operation → Nat
  | reverse | swap _ => 0
  | slice count => count.toNat

def Operation.Fits (op : Operation) (length : Nat) : Prop :=
  ∀ k, op = swap k → k.toNat < length

@[simp] theorem length_swapFront (s : Text) (i : Nat) (h : i < s.length) :
    (swapFront s i h).length = s.length := by
  simp [swapFront]

/-- An operation that fits leaves a text of known length. -/
theorem Operation.apply_fits {op : Operation} (h : op.Fits s.length) :
    ∃ t, op.apply s = .ok t ∧ t.length = s.length - op.cut := by
  cases op with
  | reverse => exact ⟨s.reverse, rfl, List.length_reverse⟩
  | slice count => exact ⟨s.drop count.toNat, rfl, List.length_drop⟩
  | swap k =>
    have inside : k.toNat < s.length := h k rfl
    exact ⟨swapFront s k.toNat inside, by simp [apply, inside], by simp [cut]⟩

theorem Operation.apply_overrun (h : s.length ≤ k.toNat) :
    (swap k).apply s = .error (.swapOutOfRange k s.length) := by
  rw [apply, dif_neg (Nat.not_lt.mpr h)]

namespace Program

/-- The characters that the slices of a program remove together, when there are enough. -/
def cut : Program → Nat
  | [] => 0
  | op :: p => op.cut + cut p

/-- The swap at a position needs more characters than the slices in front of it leave. -/
def Overruns (p : Program) (length i : Nat) (k : UInt64) : Prop :=
  p[i]? = some (.swap k) ∧ length < cut (p.take i) + k.toNat + 1

/-- No swap in front of that position needs too many characters. -/
def FirstOverrun (p : Program) (length i : Nat) (k : UInt64) : Prop :=
  Overruns p length i k ∧ ∀ j < i, ∀ m, ¬ Overruns p length j m

theorem cut_nil : cut [] = 0 := rfl

theorem cut_cons (op : Operation) (p : Program) : cut (op :: p) = op.cut + cut p := rfl

theorem overruns_zero {op : Operation} :
    Overruns (op :: p) length 0 k ↔ op = .swap k ∧ length ≤ k.toNat := by
  rw [Overruns, List.getElem?_cons_zero, Option.some.injEq, List.take_zero, cut_nil, Nat.zero_add,
    Nat.lt_succ_iff]

/-- What the first operation removes is missing for all others. -/
theorem overruns_succ {op : Operation} :
    Overruns (op :: p) length (i + 1) k ↔ Overruns p (length - op.cut) i k := by
  rw [Overruns, Overruns, List.getElem?_cons_succ, List.take_succ_cons, cut_cons]
  refine and_congr_right fun _ => ?_
  omega

/-- The first operation fits exactly if it does not overrun. -/
theorem fits_iff {op : Operation} : op.Fits length ↔ ∀ k, ¬ Overruns (op :: p) length 0 k := by
  constructor
  · intro h k overrun
    obtain ⟨rfl, short⟩ := overruns_zero.mp overrun
    exact absurd (h k rfl) (Nat.not_lt.mpr short)
  · rintro h k rfl
    exact Nat.not_le.mp fun short => h k (overruns_zero.mpr ⟨rfl, short⟩)

/-- A program whose swaps all have enough characters deciphers. -/
theorem apply_fits {p : Program} (h : ∀ i k, ¬ Overruns p s.length i k) :
    ∃ t, apply p s = .ok t ∧ t.length = s.length - cut p := by
  induction p generalizing s with
  | nil => exact ⟨s, rfl, rfl⟩
  | cons op p ih =>
    obtain ⟨u, hu, left⟩ := Operation.apply_fits (fits_iff.mpr (h 0))
    have rest : ∀ i k, ¬ Overruns p u.length i k := by
      intro i k overrun
      exact h (i + 1) k (overruns_succ.mpr (left ▸ overrun))
    obtain ⟨t, ht, length⟩ := ih rest
    refine ⟨t, ?_, ?_⟩
    · rw [apply_cons, hu]
      exact ht
    · rw [length, left, cut_cons, Nat.sub_sub]

/-- The first swap that needs too many characters is the one that fails. -/
theorem apply_overrun {p : Program} (h : FirstOverrun p s.length i k) :
    apply p s = .error (.swapOutOfRange k (s.length - cut (p.take i))) := by
  obtain ⟨overrun, first⟩ := h
  induction p generalizing s i with
  | nil => simp [Overruns] at overrun
  | cons op p ih =>
    cases i with
    | zero =>
      obtain ⟨rfl, short⟩ := overruns_zero.mp overrun
      rw [apply_cons, Operation.apply_overrun short]
      rfl
    | succ i =>
      obtain ⟨u, hu, left⟩ := Operation.apply_fits (fits_iff.mpr (first 0 (Nat.succ_pos i)))
      have behind : Overruns p u.length i k := left ▸ overruns_succ.mp overrun
      have before : ∀ j < i, ∀ m, ¬ Overruns p u.length j m := by
        intro j hj m other
        exact first (j + 1) (Nat.succ_lt_succ hj) m (overruns_succ.mpr (left ▸ other))
      have failed := ih behind before
      rw [apply_cons, hu, List.take_succ_cons, cut_cons, ← Nat.sub_sub, ← left]
      exact failed

theorem exists_firstOverrun (h : ∃ i k, Overruns p length i k) :
    ∃ i k, FirstOverrun p length i k := by
  classical
  obtain ⟨k, overrun⟩ := Nat.find_spec h
  exact ⟨Nat.find h, k, overrun, fun j hj m other => Nat.find_min h hj ⟨m, other⟩⟩

/-- Either every swap has enough characters or one is the first that has not. -/
theorem apply_cases (p : Program) (length : Nat) :
    (∀ i k, ¬ Overruns p length i k) ∨ ∃ i k, FirstOverrun p length i k := by
  by_cases h : ∃ i k, Overruns p length i k
  · exact .inr (exists_firstOverrun h)
  · exact .inl fun i k overrun => h ⟨i, k, overrun⟩

/-- A program applies exactly if none of its swaps overruns. -/
theorem apply_ok_iff {p : Program} :
    (∃ t, apply p s = .ok t) ↔ ∀ i k, ¬ Overruns p s.length i k := by
  constructor
  · rintro ⟨t, ht⟩
    rcases apply_cases p s.length with enough | ⟨i, k, first⟩
    · exact enough
    · rw [apply_overrun first] at ht
      cases ht
  · intro enough
    obtain ⟨t, ht, -⟩ := apply_fits enough
    exact ⟨t, ht⟩

/-- The fault names the first swap that overruns and the length it met. -/
theorem apply_error_iff {p : Program} : apply p s = .error fault ↔
    ∃ i k, FirstOverrun p s.length i k ∧ fault = .swapOutOfRange k (s.length - cut (p.take i)) := by
  constructor
  · intro failed
    rcases apply_cases p s.length with enough | ⟨i, k, first⟩
    · obtain ⟨t, ht, -⟩ := apply_fits enough
      rw [ht] at failed
      cases failed
    · rw [apply_overrun first] at failed
      exact ⟨i, k, first, (Except.error.inj failed).symm⟩
  · rintro ⟨i, k, first, rfl⟩
    exact apply_overrun first

/-- The length of the signature alone decides whether a program deciphers it, where it fails, and
how long the answer is. -/
theorem apply_threshold (p : Program) (s : Text) :
    ((∃ t, apply p s = .ok t) ↔
      ∀ i k, p[i]? = some (.swap k) → s.length ≥ cut (p.take i) + k.toNat + 1) ∧
    (∀ fault, apply p s = .error fault ↔ ∃ i k, FirstOverrun p s.length i k ∧
      fault = .swapOutOfRange k (s.length - cut (p.take i))) ∧
    (∀ t, apply p s = .ok t → t.length = s.length - cut p) ∧
    ∀ longer : Text, s.length ≤ longer.length → (∃ t, apply p s = .ok t) →
      ∃ t, apply p longer = .ok t := by
  have enough : ∀ length, (∀ i k, ¬ Overruns p length i k) ↔
      ∀ i k, p[i]? = some (.swap k) → length ≥ cut (p.take i) + k.toNat + 1 := by
    intro length
    simp only [Overruns, not_and, Nat.not_lt]
  refine ⟨apply_ok_iff.trans (enough _), fun fault => apply_error_iff, ?_, ?_⟩
  · intro t ht
    obtain ⟨u, hu, length⟩ := apply_fits (apply_ok_iff.mp ⟨t, ht⟩)
    rw [hu] at ht
    cases ht
    exact length
  · intro longer more accepted
    rw [apply_ok_iff, enough] at accepted ⊢
    intro i k swap
    exact Nat.le_trans (accepted i k swap) more

end Program
end Descramble
