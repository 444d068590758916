import Mathlib.Algebra.BigOperators.Fin
import Mathlib.Algebra.Group.Nat.Even
import Descramble.Proofs.Program.Length

namespace Descramble.Program

def reversals (p : Program) : Nat := p.count .reverse

/-- What is removed from the front of the signature: the slices behind an even number of
reversals. -/
def front (p : Program) : Nat :=
  ∑ i : Fin p.length, if Even (reversals (p.take i)) then p[i].cut else 0

/-- What is removed from its back: the slices behind an odd number of reversals. -/
def back (p : Program) : Nat :=
  ∑ i : Fin p.length, if Odd (reversals (p.take i)) then p[i].cut else 0

@[simp] theorem reversals_nil : reversals [] = 0 := rfl

@[simp] theorem reversals_reverse (p : Program) :
    reversals (.reverse :: p) = reversals p + 1 := by
  simp [reversals]

@[simp] theorem reversals_slice (count : UInt64) (p : Program) :
    reversals (.slice count :: p) = reversals p := by
  simp [reversals]

@[simp] theorem front_nil : front [] = 0 := rfl

@[simp] theorem back_nil : back [] = 0 := rfl

/-- A reversal exchanges the two ends for the rest of the program. -/
@[simp] theorem front_reverse (p : Program) : front (.reverse :: p) = back p := by
  have first : Operation.cut .reverse = 0 := rfl
  simp [front, back, Fin.sum_univ_succ, first, Nat.even_add_one]

@[simp] theorem back_reverse (p : Program) : back (.reverse :: p) = front p := by
  simp [front, back, Fin.sum_univ_succ, Nat.odd_add_one]

@[simp] theorem front_slice (count : UInt64) (p : Program) :
    front (.slice count :: p) = count.toNat + front p := by
  have first : Operation.cut (.slice count) = count.toNat := rfl
  simp [front, Fin.sum_univ_succ, first]

@[simp] theorem back_slice (count : UInt64) (p : Program) :
    back (.slice count :: p) = back p := by
  simp [back, Fin.sum_univ_succ]

def turned (n : Nat) (s : Text) : Text := if Even n then s else s.reverse

theorem turned_reverse (n : Nat) (s : Text) : turned n s.reverse = turned (n + 1) s := by
  by_cases even : Even n <;> simp [turned, even, Nat.even_add_one]

/-- A part of the reversed text is the reversed part at the other end. -/
theorem extract_reverse (s : Text) (f b : Nat) :
    s.reverse.extract f (s.length - b) = (s.extract b (s.length - f)).reverse := by
  have short : s.drop (s.length - (s.length - b)) = s.drop b := by
    rw [List.drop_eq_drop_iff]
    omega
  rw [List.extract_eq_drop_take', List.take_reverse, short, List.drop_reverse, List.length_drop,
    List.extract_eq_take_drop]
  congr 2
  omega

theorem extract_drop (s : Text) (count f b : Nat) :
    (s.drop count).extract f ((s.drop count).length - b) =
      s.extract (count + f) (s.length - b) := by
  rw [List.extract_eq_take_drop, List.extract_eq_take_drop, List.drop_drop, List.length_drop]
  congr 1
  omega

/-- Without swaps a part of the signature is left, turned round or not. -/
theorem apply_eq_extract {p : Program} (swapFree : ∀ k, .swap k ∉ p) (s : Text) :
    apply p s = .ok (turned (reversals p) (s.extract (front p) (s.length - back p))) := by
  induction p generalizing s with
  | nil => simp [turned]
  | cons op p ih =>
    have rest : ∀ k, .swap k ∉ p := fun k hk => swapFree k (List.mem_cons_of_mem op hk)
    rw [apply_cons]
    cases op with
    | reverse =>
      calc apply p s.reverse
        _ = .ok (turned (reversals p)
              (s.reverse.extract (front p) (s.length - back p))) := by
            rw [ih rest, List.length_reverse]
        _ = .ok (turned (reversals p + 1) (s.extract (back p) (s.length - front p))) := by
            rw [extract_reverse, turned_reverse]
        _ = _ := by rw [reversals_reverse, front_reverse, back_reverse]
    | slice count =>
      calc apply p (s.drop count.toNat)
        _ = .ok (turned (reversals p) ((s.drop count.toNat).extract (front p)
              ((s.drop count.toNat).length - back p))) := ih rest _
        _ = .ok (turned (reversals p) (s.extract (count.toNat + front p)
              (s.length - back p))) := by rw [extract_drop]
        _ = _ := by rw [reversals_slice, front_slice, back_slice]
    | swap k => exact absurd List.mem_cons_self (swapFree k)

/-- A program without swaps keeps what its slices leave between the two ends of the signature: the
characters from `front` up to `back` from the end, turned round by an odd number of reversals. -/
theorem apply_window {p : Program} (swapFree : ∀ k, .swap k ∉ p) (s : Text) :
    (s.length ≤ front p + back p → apply p s = .ok []) ∧
    (front p + back p < s.length → apply p s = .ok (
      let kept := s.extract (front p) (s.length - back p)
      if Even (reversals p) then kept else kept.reverse)) := by
  constructor
  · intro short
    have empty : s.extract (front p) (s.length - back p) = [] := by
      rw [List.extract_eq_take_drop, List.take_eq_nil_iff]
      left
      omega
    rw [apply_eq_extract swapFree, empty]
    simp [turned]
  · intro long
    exact apply_eq_extract swapFree s

/-- Slices behind one reversal and behind three take from the back. -/
theorem apply_window_ends :
    let p : Program := [.slice 1, .reverse, .slice 2, .reverse, .slice 1, .reverse, .slice 1]
    let s := "abcdefgh".toList
    (∀ k, .swap k ∉ p) ∧ front p = 2 ∧ back p = 3 ∧ apply p s = .ok "edc".toList := by
  intro p s
  have swapFree : ∀ k, .swap k ∉ p := by simp [p]
  have atFront : front p = 2 := by simp [p]
  have atBack : back p = 3 := by simp [p]
  have odd : ¬ Even (reversals p) := by decide
  have long : front p + back p < s.length := by
    rw [atFront, atBack]
    decide
  refine ⟨swapFree, atFront, atBack, ?_⟩
  rw [(apply_window swapFree s).2 long, atFront, atBack]
  simp only [if_neg odd]
  rfl

end Descramble.Program
