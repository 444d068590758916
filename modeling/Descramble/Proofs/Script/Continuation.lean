import Descramble.Proofs.Script.Classification
import Descramble.Proofs.Script.Policy

namespace Descramble.Script

/-- If a helper is called early and has a kind, then the first of its kind is called early. -/
theorem firstOfKind?_append_of_called (early : name ∈ called xs) :
    firstOfKind? rules script (xs ++ ys) kind = some name ↔
      firstOfKind? rules script xs kind = some name := by
  rw [firstOfKind?_append, Option.or_eq_some_iff, or_iff_left]
  rintro ⟨missed, later⟩
  -- The early call is of this kind as well, so the front has one.
  have unlike := List.find?_eq_none.mp missed name early
  simp [(firstOfKind?_eq_some later).2] at unlike

/-- Statements that are appended neither bind a helper called before them nor take its kind. -/
theorem kindOf?_classify_append (early : name ∈ called xs) :
    (classify rules script (xs ++ ys)).kindOf? name = (classify rules script xs).kindOf? name := by
  apply Option.ext
  intro kind
  rw [kindOf?_classify, kindOf?_classify, firstOfKind?_append_of_called early]

theorem mem_called_of_mem (hs : s ∈ ss) (call : calledHelper? s = some name) : name ∈ called ss :=
  List.mem_filterMap.mpr ⟨s, hs, call⟩

/-- What a statement stands for depends on the kind of its own helper only. -/
theorem operation?_congr
    (same : ∀ name, calledHelper? s = some name → b.kindOf? name = b'.kindOf? name) :
    operation? policy b s = operation? policy b' s := by
  have kind : (calledHelper? s).bind b.kindOf? = (calledHelper? s).bind b'.kindOf? := by
    cases call : calledHelper? s with
    | none => rfl
    | some name => exact same name call
  simp only [operation?, kind]

/-- The bindings matter for the helpers that are called, and for no others. -/
theorem sequence_congr
    (same : ∀ s ∈ ss, ∀ name, calledHelper? s = some name → b.kindOf? name = b'.kindOf? name) :
    sequence policy b ss = sequence policy b' ss := by
  induction ss with
  | nil => rfl
  | cons s ss ih =>
    have here : operation? policy b s = operation? policy b' s :=
      operation?_congr (same s List.mem_cons_self)
    have behind := ih fun t ht => same t (List.mem_cons_of_mem s ht)
    simp only [sequence, here, behind]

/-- Statements that are appended change neither the kinds of the helpers called before them nor the
operations that stand there. They only add the operations they stand for themselves. -/
theorem classify_append_keeps (rules : List Rule) (script : Text) (xs ys : List Text) :
    (∀ s ∈ xs, ∀ name, calledHelper? s = some name → ∀ kind,
      (classify rules script (xs ++ ys)).kindOf? name = some kind ↔
        (classify rules script xs).kindOf? name = some kind) ∧
    ∃ p q, sequence .ignore (classify rules script xs) xs = .ok p ∧
      sequence .ignore (classify rules script (xs ++ ys)) ys = .ok q ∧
      sequence .ignore (classify rules script (xs ++ ys)) (xs ++ ys) = .ok (p ++ q) := by
  have kept : ∀ s ∈ xs, ∀ name, calledHelper? s = some name →
      (classify rules script (xs ++ ys)).kindOf? name = (classify rules script xs).kindOf? name :=
    fun s hs name call => kindOf?_classify_append (mem_called_of_mem hs call)
  constructor
  · intro s hs name call kind
    rw [kept s hs name call]
  · obtain ⟨p, hp⟩ := sequence_ignore (classify rules script xs) xs
    obtain ⟨q, hq⟩ := sequence_ignore (classify rules script (xs ++ ys)) ys
    refine ⟨p, q, hp, hq, ?_⟩
    rw [sequence_append, sequence_congr kept, hp, hq]
    rfl

end Descramble.Script
