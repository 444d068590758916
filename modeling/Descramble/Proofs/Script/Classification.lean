import Descramble.Proofs.Script.Bindings
import Descramble.Script.Classify

namespace Descramble.Script

def called (ss : List Text) : List Text := ss.filterMap calledHelper?

/-- The helper of the kind that is called first. -/
def firstOfKind? (rules : List Rule) (script : Text) (ss : List Text) (kind : Kind) : Option Text :=
  (called ss).find? fun name => helperKind? rules script name = some kind

theorem called_append (ss ts : List Text) : called (ss ++ ts) = called ss ++ called ts :=
  List.filterMap_append

theorem called_of_none (h : calledHelper? s = none) : called [s] = [] := by simp [called, h]

theorem called_of_some (h : calledHelper? s = some name) : called [s] = [name] := by
  simp [called, h]

theorem firstOfKind?_append (rules : List Rule) (script : Text) (ss ts : List Text) (kind : Kind) :
    firstOfKind? rules script (ss ++ ts) kind =
      (firstOfKind? rules script ss kind).or (firstOfKind? rules script ts kind) := by
  simp [firstOfKind?, called_append]

theorem firstOfKind?_eq_some (h : firstOfKind? rules script ss kind = some name) :
    name ∈ called ss ∧ helperKind? rules script name = some kind :=
  ⟨List.mem_of_find?_eq_some h, by simpa using List.find?_some h⟩

theorem helperKind?_mem (h : helperKind? rules script name = some kind) :
    kind ∈ rules.map Rule.kind := by
  obtain ⟨rule, hr, rfl⟩ := Option.map_eq_some_iff.mp h
  exact List.mem_map.mpr ⟨rule, List.mem_of_find?_eq_some hr, rfl⟩

/-- What holds between two statements: exactly the helpers called so far have been tried, and each
kind is bound to the first of them that is of this kind. -/
structure Settled (rules : List Rule) (script : Text) (past tried : List Text) (b : Bindings) :
    Prop where
  oneToOne : b.OneToOne
  tried_iff : ∀ name, name ∈ tried ↔ name ∈ called past
  mem_iff : ∀ name kind,
    (name, kind) ∈ b.entries ↔ firstOfKind? rules script past kind = some name

namespace Settled

variable {rules : List Rule} {script : Text} {past tried : List Text} {b : Bindings}

theorem start (rules : List Rule) (script : Text) : Settled rules script [] [] {} :=
  ⟨.empty, by simp [called], by simp [firstOfKind?, called]⟩

theorem has_iff (h : Settled rules script past tried b) :
    b.has kind = true ↔ (firstOfKind? rules script past kind).isSome = true := by
  rw [Bindings.has_iff, Option.isSome_iff_exists]
  exact exists_congr fun name => h.mem_iff name kind

/-- A statement that calls nothing new, or nothing of a known kind, binds nothing. -/
theorem pass (h : Settled rules script past tried b)
    (same : ∀ kind, (firstOfKind? rules script past kind).or
      (firstOfKind? rules script [s] kind) = firstOfKind? rules script past kind)
    (ht : ∀ name, name ∈ tried' ↔ name ∈ called (past ++ [s])) :
    Settled rules script (past ++ [s]) tried' b := by
  refine ⟨h.oneToOne, ht, ?_⟩
  intro name kind
  rw [firstOfKind?_append, same kind, h.mem_iff]

theorem noCall (h : Settled rules script past tried b) (hs : calledHelper? s = none) :
    Settled rules script (past ++ [s]) tried b := by
  apply h.pass
  · simp [firstOfKind?, called_of_none hs]
  · simp [h.tried_iff, called_append, called_of_none hs]

/-- A helper that has been tried is not the first of its kind again. -/
theorem again (h : Settled rules script past tried b) (hs : calledHelper? s = some name)
    (hn : name ∈ tried) : Settled rules script (past ++ [s]) tried b := by
  have before := (h.tried_iff name).mp hn
  apply h.pass
  · intro kind
    cases hf : firstOfKind? rules script past kind with
    | some first => rfl
    | none =>
      have other := List.find?_eq_none.mp hf name before
      simpa [firstOfKind?, called_of_some hs] using other
  · intro other
    rw [h.tried_iff, called_append, List.mem_append, called_of_some hs, List.mem_singleton]
    refine ⟨.inl, ?_⟩
    rintro (hm | rfl)
    · exact hm
    · exact before

theorem tried_cons (h : Settled rules script past tried b) (hs : calledHelper? s = some name)
    (other : Text) : other ∈ name :: tried ↔ other ∈ called (past ++ [s]) := by
  rw [List.mem_cons, h.tried_iff, called_append, List.mem_append, called_of_some hs,
    List.mem_singleton]
  exact or_comm

/-- A helper without a kind is tried in vain. -/
theorem unknown (h : Settled rules script past tried b) (hs : calledHelper? s = some name)
    (hk : helperKind? rules script name = none) :
    Settled rules script (past ++ [s]) (name :: tried) b := by
  apply h.pass
  · intro kind
    simp [firstOfKind?, called_of_some hs, hk]
  · exact h.tried_cons hs

/-- A helper that is tried for the first time is bound if it is the first of its kind. -/
theorem bind (h : Settled rules script past tried b) (hs : calledHelper? s = some name)
    (hn : name ∉ tried) (hk : helperKind? rules script name = some kind) :
    Settled rules script (past ++ [s]) (name :: tried) (b.bind name kind) := by
  have one : ∀ k, firstOfKind? rules script [s] k = if kind = k then some name else none := by
    intro k
    by_cases he : kind = k <;> simp [firstOfKind?, called_of_some hs, hk, he]
  by_cases taken : b.has kind = true
  · rw [Bindings.bind_of_has taken]
    refine h.pass ?_ (h.tried_cons hs)
    intro k
    by_cases he : kind = k
    · obtain ⟨first, hf⟩ := Option.isSome_iff_exists.mp (h.has_iff.mp taken)
      rw [← he, hf, Option.some_or]
    · rw [one, if_neg he, Option.or_none]
  · have free : firstOfKind? rules script past kind = none := by
      simpa using mt h.has_iff.mpr taken
    refine ⟨h.oneToOne.bind name kind, h.tried_cons hs, ?_⟩
    intro other k
    rw [Bindings.bind, if_neg taken, Bindings.mem_insert, h.mem_iff, firstOfKind?_append, one]
    by_cases he : kind = k
    · subst he
      simp [free, eq_comm]
    · -- A kind bound earlier keeps its helper: the name has not been tried, so it is not that one.
      have keep : firstOfKind? rules script past k = some other → other ≠ name := by
        rintro hf rfl
        exact hn ((h.tried_iff other).mpr (firstOfKind?_eq_some hf).1)
      simp only [Ne.symm he, and_false, false_or, if_neg he, Option.or_none]
      exact ⟨And.left, fun hf => ⟨hf, keep hf⟩⟩

/-- Once every kind of the table is bound, later calls are never first. -/
theorem covered (h : Settled rules script past tried b)
    (hc : b.covers (rules.map Rule.kind) = true) (ss : List Text) (kind : Kind) :
    firstOfKind? rules script (past ++ ss) kind = firstOfKind? rules script past kind := by
  rw [firstOfKind?_append]
  cases hf : firstOfKind? rules script past kind with
  | some first => rfl
  | none =>
    rw [Option.none_or]
    cases hs : firstOfKind? rules script ss kind with
    | none => rfl
    | some name =>
      have known := helperKind?_mem (firstOfKind?_eq_some hs).2
      have bound := h.has_iff.mp (List.all_eq_true.mp hc kind known)
      rw [hf] at bound
      contradiction

end Settled

/-- The loop keeps its invariant, so that each kind ends with the first helper of that kind. -/
theorem classifyFrom_settled (h : Settled rules script past tried b) (ss : List Text) :
    (classifyFrom rules script tried b ss).OneToOne ∧
      ∀ name kind, (name, kind) ∈ (classifyFrom rules script tried b ss).entries ↔
        firstOfKind? rules script (past ++ ss) kind = some name := by
  induction ss generalizing past tried b with
  | nil =>
    rw [List.append_nil]
    exact ⟨h.oneToOne, h.mem_iff⟩
  | cons s ss ih =>
    have next : past ++ s :: ss = (past ++ [s]) ++ ss := by simp
    rw [classifyFrom_cons]
    split
    · next hc =>
      refine ⟨h.oneToOne, ?_⟩
      intro name kind
      rw [h.covered hc, h.mem_iff]
    · rw [next]
      cases hs : calledHelper? s with
      | none => exact ih (h.noCall hs)
      | some name =>
        simp only
        split
        · next hn => exact ih (h.again hs hn)
        · next hn =>
          cases hk : helperKind? rules script name with
          | none => exact ih (h.unknown hs hk)
          | some kind => exact ih (h.bind hs hn hk)

/-- Neither the stop once all kinds are bound nor the memory of tried names shows in the result. -/
theorem kindOf?_classify (rules : List Rule) (script : Text) (ss : List Text) (name : Text)
    (kind : Kind) : (classify rules script ss).kindOf? name = some kind ↔
      firstOfKind? rules script ss kind = some name := by
  obtain ⟨one, mem⟩ := classifyFrom_settled (.start rules script) ss
  rw [classify, one.kindOf?_eq_some_iff, mem, List.nil_append]

end Descramble.Script
