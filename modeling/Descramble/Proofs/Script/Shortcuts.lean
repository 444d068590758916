import Descramble.Proofs.Script.Classification

namespace Descramble.Script

/-- The work that a classification may save itself: it may stop once every kind of the table is
bound, and it may pass over the helpers that it has tried. -/
structure Shortcuts where
  stops : Bool
  skips : Bool

def attempt (rules : List Rule) (script : Text) (b : Bindings) (name : Text) : Bindings :=
  match helperKind? rules script name with
  | none => b
  | some kind => b.bind name kind

def classifyBy (cuts : Shortcuts) (rules : List Rule) (script : Text) (tried : List Text)
    (b : Bindings) : List Text → Bindings
  | [] => b
  | s :: ss =>
    if cuts.stops = true ∧ b.covers (rules.map Rule.kind) = true then b
    else
      match calledHelper? s with
      | none => classifyBy cuts rules script tried b ss
      | some name =>
        if cuts.skips = true ∧ name ∈ tried then classifyBy cuts rules script tried b ss
        else classifyBy cuts rules script (name :: tried) (attempt rules script b name) ss

theorem classifyBy_cons (cuts : Shortcuts) (rules : List Rule) (script : Text) (tried : List Text)
    (b : Bindings) (s : Text) (ss : List Text) : classifyBy cuts rules script tried b (s :: ss) =
      if cuts.stops = true ∧ b.covers (rules.map Rule.kind) = true then b
      else
        match calledHelper? s with
        | none => classifyBy cuts rules script tried b ss
        | some name =>
          if cuts.skips = true ∧ name ∈ tried then classifyBy cuts rules script tried b ss
          else classifyBy cuts rules script (name :: tried) (attempt rules script b name) ss := rfl

theorem called_cons_none (h : calledHelper? s = none) (ss : List Text) :
    called (s :: ss) = called ss := List.filterMap_cons_none h

theorem called_cons_some (h : calledHelper? s = some name) (ss : List Text) :
    called (s :: ss) = name :: called ss := List.filterMap_cons_some h

/-- Every helper with a kind finds that kind taken. -/
theorem attempt_covered (h : Bindings.covers b (rules.map Rule.kind) = true) (script name : Text) :
    attempt rules script b name = b := by
  rw [attempt]
  split
  · rfl
  · next kind known =>
    have taken : b.has kind = true := List.all_eq_true.mp h kind (helperKind?_mem known)
    exact Bindings.bind_of_has taken

theorem foldl_attempt_covered (h : Bindings.covers b (rules.map Rule.kind) = true) (script : Text)
    (names : List Text) : names.foldl (attempt rules script) b = b := by
  induction names with
  | nil => rfl
  | cons name names ih => rw [List.foldl_cons, attempt_covered h, ih]

namespace Settled

variable {rules : List Rule} {script : Text} {past tried : List Text} {b : Bindings}

/-- A helper called before has no kind, or its kind is bound by now. -/
theorem attempt_again (h : Settled rules script past tried b) (before : name ∈ called past) :
    attempt rules script b name = b := by
  rw [attempt]
  split
  · rfl
  · next kind known =>
    have first : (firstOfKind? rules script past kind).isSome = true := by
      rw [firstOfKind?, List.find?_isSome]
      exact ⟨name, before, decide_eq_true known⟩
    exact Bindings.bind_of_has (h.has_iff.mpr first)

/-- Trying a helper a second time adds nothing to the memory. -/
theorem remember (h : Settled rules script past tried b) (known : name ∈ tried) :
    Settled rules script past (name :: tried) b := by
  refine ⟨h.oneToOne, ?_, h.mem_iff⟩
  intro other
  rw [List.mem_cons, ← h.tried_iff, or_iff_right_iff_imp]
  rintro rfl
  exact known

theorem attempt (h : Settled rules script past tried b) (hs : calledHelper? s = some name) :
    Settled rules script (past ++ [s]) (name :: tried) (attempt rules script b name) := by
  by_cases known : name ∈ tried
  · rw [h.attempt_again ((h.tried_iff name).mp known)]
    exact (h.again hs known).remember known
  · rw [Script.attempt]
    split
    · next unknown => exact h.unknown hs unknown
    · next kind found => exact h.bind hs known found

end Settled

/-- Whatever a loop saves itself, it binds what trying all called helpers in turn binds. -/
theorem classifyBy_eq_foldl (h : Settled rules script past tried b) (cuts : Shortcuts)
    (ss : List Text) : classifyBy cuts rules script tried b ss =
      (called ss).foldl (attempt rules script) b := by
  induction ss generalizing past tried b with
  | nil => rfl
  | cons s ss ih =>
    rw [classifyBy_cons]
    split
    · next covered => rw [foldl_attempt_covered covered.2]
    · cases hs : calledHelper? s with
      | none =>
        rw [called_cons_none hs]
        exact ih (h.noCall hs)
      | some name =>
        rw [called_cons_some hs, List.foldl_cons]
        simp only
        split
        · next seen =>
          rw [h.attempt_again ((h.tried_iff name).mp seen.2)]
          exact ih (h.again hs seen.2)
        · exact ih (h.attempt hs)

/-- The program takes both shortcuts. -/
theorem classifyFrom_eq_classifyBy (rules : List Rule) (script : Text) (tried : List Text)
    (b : Bindings) (ss : List Text) :
    classifyFrom rules script tried b ss = classifyBy ⟨true, true⟩ rules script tried b ss := by
  induction ss generalizing tried b with
  | nil => rfl
  | cons s ss ih =>
    simp only [classifyFrom_cons, classifyBy_cons, true_and]
    cases calledHelper? s with
    | none => simp only [ih]
    | some name =>
      cases kind : helperKind? rules script name <;> simp only [attempt, kind, ih]

theorem classify_eq_foldl (rules : List Rule) (script : Text) (ss : List Text) :
    classify rules script ss = (called ss).foldl (attempt rules script) {} := by
  rw [classify, classifyFrom_eq_classifyBy, classifyBy_eq_foldl (.start rules script)]

theorem firstOfKind?_eq_some_iff : firstOfKind? rules script ss kind = some name ↔
    helperKind? rules script name = some kind ∧ ∃ before behind,
      called ss = before ++ name :: behind ∧
        ∀ other ∈ before, helperKind? rules script other ≠ some kind := by
  simp [firstOfKind?, List.find?_eq_some_iff_append]

/-- The bindings are those of the plain definition: a helper is bound to its kind if no helper of
that kind is called before it, and no other is. A loop that neither stops early nor passes over
any call has the same result, and so has one that saves itself only part of the work. -/
theorem classify_exhaustive (rules : List Rule) (script : Text) (ss : List Text) :
    (∀ name kind, (classify rules script ss).kindOf? name = some kind ↔
      helperKind? rules script name = some kind ∧ ∃ before behind,
        called ss = before ++ name :: behind ∧
          ∀ other ∈ before, helperKind? rules script other ≠ some kind) ∧
    (∀ name kind, (classify rules script ss).nameOf? kind = some name ↔
      (classify rules script ss).kindOf? name = some kind) ∧
    classify rules script ss = (called ss).foldl (attempt rules script) {} ∧
    ∀ cuts, classifyBy cuts rules script [] {} ss = classify rules script ss := by
  obtain ⟨one, -⟩ := classifyFrom_settled (.start rules script) ss
  refine ⟨?_, ?_, classify_eq_foldl rules script ss, ?_⟩
  · intro name kind
    rw [kindOf?_classify, firstOfKind?_eq_some_iff]
  · intro name kind
    rw [classify, one.nameOf?_eq_some_iff, one.kindOf?_eq_some_iff]
  · intro cuts
    rw [classifyBy_eq_foldl (.start rules script), classify_eq_foldl]

end Descramble.Script
