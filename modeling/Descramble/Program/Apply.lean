import Descramble.Fault

namespace Descramble

def swapFront (s : Text) (i : Nat) (h : i < s.length) : Text :=
  (s.set 0 (s.get ⟨i, h⟩)).set i (s.get ⟨0, Nat.zero_lt_of_lt h⟩)

/-- A slice longer than the text leaves nothing; a swap has no wrap-around. -/
def Operation.apply (op : Operation) (s : Text) : Except Fault Text :=
  match op with
  | reverse => .ok s.reverse
  | slice count => .ok (s.drop count.toNat)
  | swap index =>
    if h : index.toNat < s.length then
      .ok (swapFront s index.toNat h)
    else
      .error (.swapOutOfRange index s.length)

namespace Program

def apply : Program → Text → Except Fault Text
  | [], s => .ok s
  | op :: p, s => op.apply s >>= apply p

def trace : Program → Text → List (Except Fault Text)
  | [], _ => []
  | op :: p, s =>
    match op.apply s with
    | .ok t => .ok t :: trace p t
    | .error fault => [.error fault]

@[simp] theorem apply_nil (s : Text) : apply [] s = .ok s := rfl

theorem apply_cons (op : Operation) (p : Program) (s : Text) :
    apply (op :: p) s = op.apply s >>= apply p := rfl

theorem apply_cons_ok {op : Operation} {p : Program} :
    apply (op :: p) s = .ok t ↔ ∃ u, op.apply s = .ok u ∧ apply p u = .ok t := by
  rw [apply_cons]
  cases op.apply s <;> simp [bind, Except.bind]

/-- Two programs one behind the other work like one. -/
theorem apply_append (p q : Program) (s : Text) : apply (p ++ q) s = apply p s >>= apply q := by
  induction p generalizing s with
  | nil => rfl
  | cons op p ih =>
    rw [List.cons_append, apply_cons, apply_cons]
    cases h : op.apply s with
    | error fault => rfl
    | ok t => exact ih t

end Program
end Descramble
