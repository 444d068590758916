import Mathlib.Data.List.Perm.Basic
import Descramble.Proofs.Program.Length

namespace Descramble

open scoped List

/-- What an operation does to a list of anything. A swap past the end changes nothing. -/
def Operation.rearrange : Operation → List α → List α
  | .reverse, xs => xs.reverse
  | .slice count, xs => xs.drop count.toNat
  | .swap k, xs =>
    if h : k.toNat < xs.length then
      (xs.set 0 xs[k.toNat]).set k.toNat xs[0]
    else xs

/-- An operation that succeeds rearranges the characters. -/
theorem Operation.apply_eq_rearrange {op : Operation} (h : op.apply s = .ok t) :
    t = op.rearrange s := by
  cases op with
  | reverse | slice _ => exact (Except.ok.inj h).symm
  | swap k =>
    rw [apply] at h
    split at h
    · next inside =>
      rw [rearrange, dif_pos inside]
      exact (Except.ok.inj h).symm
    · cases h

/-- Characters are moved without a look at them. -/
theorem Operation.rearrange_map (op : Operation) (f : α → β) (xs : List α) :
    op.rearrange (xs.map f) = (op.rearrange xs).map f := by
  cases op with
  | reverse => exact List.map_reverse.symm
  | slice count => exact List.map_drop.symm
  | swap k =>
    by_cases inside : k.toNat < xs.length
    · simp [rearrange, inside, List.map_set]
    · simp [rearrange, inside]

/-- No character is added and none is doubled. -/
theorem Operation.rearrange_subperm (op : Operation) (xs : List α) : op.rearrange xs <+~ xs := by
  cases op with
  | reverse => exact xs.reverse_perm.subperm
  | slice count => exact (xs.drop_sublist count.toNat).subperm
  | swap k =>
    by_cases inside : k.toNat < xs.length
    · rw [rearrange, dif_pos inside]
      exact (List.set_set_perm (Nat.zero_lt_of_lt inside) inside).subperm
    · rw [rearrange, dif_neg inside]

namespace Program

def rearrange : Program → List α → List α
  | [], xs => xs
  | op :: p, xs => rearrange p (op.rearrange xs)

theorem apply_eq_rearrange {p : Program} (h : apply p s = .ok t) : t = rearrange p s := by
  induction p generalizing s with
  | nil => exact (Except.ok.inj h).symm
  | cons op p ih =>
    obtain ⟨u, first, behind⟩ := apply_cons_ok.mp h
    rw [rearrange, ← Operation.apply_eq_rearrange first]
    exact ih behind

theorem rearrange_map (p : Program) (f : α → β) (xs : List α) :
    rearrange p (xs.map f) = (rearrange p xs).map f := by
  induction p generalizing xs with
  | nil => rfl
  | cons op p ih => rw [rearrange, rearrange, op.rearrange_map, ih]

theorem rearrange_subperm (p : Program) (xs : List α) : rearrange p xs <+~ xs := by
  induction p generalizing xs with
  | nil => exact List.Subperm.refl xs
  | cons op p ih => exact (ih (op.rearrange xs)).trans (op.rearrange_subperm xs)

/-- Where the characters of the answer stand in a signature of some length. -/
def positions (p : Program) (length : Nat) : List Nat := rearrange p (List.range length)

theorem positions_nodup (p : Program) (length : Nat) : (positions p length).Nodup := by
  obtain ⟨ps, perm, sublist⟩ := rearrange_subperm p (List.range length)
  exact perm.nodup_iff.mp (List.nodup_range.sublist sublist)

theorem lt_of_mem_positions (h : i ∈ positions p length) : i < length :=
  List.mem_range.mp ((rearrange_subperm p (List.range length)).subset h)

theorem map_some_eq_range (s : List α) : s.map some = (List.range s.length).map (s[·]?) := by
  apply List.ext_getElem?
  intro i
  by_cases h : i < s.length <;> simp [h]

/-- The program reads the signature at these positions. -/
theorem rearrange_positions (p : Program) (s : List α) :
    (rearrange p s).map some = (positions p s.length).map (s[·]?) := by
  rw [← rearrange_map, map_some_eq_range, rearrange_map, positions]

/-- The same failure for all signatures of a length. -/
theorem apply_error_of_length {p : Program} {s t : Text} (h : apply p s = .error fault)
    (length : t.length = s.length) : apply p t = .error fault := by
  rw [apply_error_iff] at h ⊢
  rw [length]
  exact h

/-- It does not matter whether the characters are replaced before the program or behind it. -/
theorem apply_map (p : Program) (f : Char → Char) (s : Text) :
    apply p (s.map f) = (apply p s).map (List.map f) := by
  cases h : apply p s with
  | error fault => exact apply_error_of_length h (List.length_map f)
  | ok t =>
    have accepted : ∃ u, apply p (s.map f) = .ok u := by
      rw [apply_ok_iff, List.length_map, ← apply_ok_iff]
      exact ⟨t, h⟩
    obtain ⟨u, hu⟩ := accepted
    rw [hu, apply_eq_rearrange hu, rearrange_map, apply_eq_rearrange h]
    rfl

/-- A program picks characters by position, whatever they are, and picks none of them twice. -/
theorem apply_moves_only (p : Program) (length : Nat) :
    ((∃ fault, ∀ s : Text, s.length = length → apply p s = .error fault) ∨
      ∃ ps : List Nat, ps.Nodup ∧ (∀ i ∈ ps, i < length) ∧
        ∀ s : Text, s.length = length → ∃ t, apply p s = .ok t ∧ t.map some = ps.map (s[·]?)) ∧
    (∀ (f : Char → Char) (s : Text), apply p (s.map f) = (apply p s).map (List.map f)) ∧
    ∀ s t : Text, apply p s = .ok t → t <+~ s := by
  refine ⟨?_, fun f s => apply_map p f s, ?_⟩
  · rcases apply_cases p length with enough | ⟨i, k, first⟩
    · right
      refine ⟨positions p length, positions_nodup p length, fun i => lt_of_mem_positions, ?_⟩
      rintro s rfl
      obtain ⟨t, ht, -⟩ := apply_fits enough
      refine ⟨t, ht, ?_⟩
      rw [apply_eq_rearrange ht]
      exact rearrange_positions p s
    · left
      refine ⟨.swapOutOfRange k (length - cut (p.take i)), ?_⟩
      rintro s rfl
      exact apply_overrun first
  · intro s t ht
    rw [apply_eq_rearrange ht]
    exact rearrange_subperm p s

end Program
end Descramble
