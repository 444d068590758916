import Mathlib.Logic.Equiv.Basic
import Descramble.Proofs.Program.Length

namespace Descramble

/-- The exchanged text has at each position what stood where the exchange takes that position. -/
theorem getElem?_swapFront (s : Text) (h : i < s.length) (j : Nat) :
    (swapFront s i h)[j]? = s[Equiv.swap 0 i j]? := by
  have front : 0 < s.length := Nat.zero_lt_of_lt h
  rw [swapFront, List.getElem?_set, List.getElem?_set, List.length_set, Equiv.swap_apply_def]
  by_cases back : j = i
  · subst back
    by_cases first : j = 0
    · subst first
      simp [front]
    · simp [h, front, first]
  · by_cases first : j = 0
    · subst first
      simp [h, front, Ne.symm back]
    · simp [back, Ne.symm back, first, Ne.symm first]

/-- Exchanging the same characters again restores the text. -/
theorem swapFront_swapFront (s : Text) (h : i < s.length) (again : i < (swapFront s i h).length) :
    swapFront (swapFront s i h) i again = s := by
  apply List.ext_getElem?
  intro j
  rw [getElem?_swapFront, getElem?_swapFront, Equiv.swap_apply_self]

/-- An operation that drops nothing takes back what it has done. -/
theorem Operation.apply_apply {op : Operation} (keeps : ∀ n, op ≠ slice n)
    (h : op.apply s = .ok t) : op.apply t = .ok s := by
  cases op with
  | reverse =>
    have turned : s.reverse = t := Except.ok.inj h
    rw [← turned, apply, List.reverse_reverse]
  | slice n => exact absurd rfl (keeps n)
  | swap k =>
    rw [apply] at h
    split at h
    · next inside =>
      have exchanged : swapFront s k.toNat inside = t := Except.ok.inj h
      have again : k.toNat < (swapFront s k.toNat inside).length := by
        rw [length_swapFront]
        exact inside
      rw [← exchanged, apply, dif_pos again, swapFront_swapFront]
    · cases h

namespace Program

/-- The operations undo each other from the last to the first. -/
theorem apply_reverse {p : Program} (sliceFree : ∀ n, .slice n ∉ p) (h : apply p s = .ok t) :
    apply p.reverse t = .ok s := by
  induction p generalizing s with
  | nil => exact congrArg Except.ok (Except.ok.inj h).symm
  | cons op p ih =>
    have keeps : ∀ n, op ≠ .slice n := fun n same => sliceFree n (same ▸ List.mem_cons_self)
    have rest : ∀ n, .slice n ∉ p := fun n hn => sliceFree n (List.mem_cons_of_mem op hn)
    obtain ⟨u, first, behind⟩ := apply_cons_ok.mp h
    -- What is done first is undone last: the head of the program ends its mirror image.
    calc apply (op :: p).reverse t
      _ = apply p.reverse t >>= apply [op] := by rw [List.reverse_cons, apply_append]
      _ = apply [op] u := by rw [ih rest behind]; rfl
      _ = op.apply u >>= apply [] := apply_cons op [] u
      _ = .ok s := by rw [Operation.apply_apply keeps first]; rfl

/-- A program without slices is undone by its mirror image, the same operations in the opposite
order. So no two signatures have the same answer. -/
theorem apply_mirror {p : Program} (sliceFree : ∀ n, .slice n ∉ p) :
    (∀ s t, apply p s = .ok t ↔ apply p.reverse t = .ok s) ∧
    ∀ s s' t, apply p s = .ok t → apply p s' = .ok t → s = s' := by
  have mirrored : ∀ n, .slice n ∉ p.reverse := by simpa using sliceFree
  have undone : ∀ s t, apply p s = .ok t ↔ apply p.reverse t = .ok s := by
    intro s t
    constructor
    · exact apply_reverse sliceFree
    · intro back
      rw [← p.reverse_reverse]
      exact apply_reverse mirrored back
  refine ⟨undone, ?_⟩
  intro s s' t h h'
  have back := (undone s t).mp h
  rw [(undone s' t).mp h'] at back
  exact (Except.ok.inj back).symm

/-- Only the opposite order leads back: the program itself turns the answer into a third text. -/
theorem apply_mirror_ordered :
    let p : Program := [.swap 3, .reverse, .swap 1]
    let s := "abcdef".toList
    let t := "efacbd".toList
    (∀ n, .slice n ∉ p) ∧ apply p s = .ok t ∧ apply p.reverse t = .ok s ∧ apply p t ≠ .ok s := by
  intro p s t
  have sliceFree : ∀ n, .slice n ∉ p := by simp [p]
  have answer : apply p s = .ok t := by decide
  exact ⟨sliceFree, answer, ((apply_mirror sliceFree).1 s t).mp answer, by decide⟩

end Program
end Descramble
