import Descramble.Proofs.Script.Classification
import Descramble.Proofs.Script.Policy

namespace Descramble.Script

/-- The statement calls no helper, or one for which the table has no kind. -/
def Idle (rules : List Rule) (script s : Text) : Prop :=
  ∀ name, calledHelper? s = some name → helperKind? rules script name = none

/-- The second list has the statements of the first in their order, and idle ones anywhere. -/
inductive Interspersed (rules : List Rule) (script : Text) : List Text → List Text → Prop
  | nil : Interspersed rules script [] []
  | keep (s : Text) (rest : Interspersed rules script xs ys) :
    Interspersed rules script (s :: xs) (s :: ys)
  | insert (idle : Idle rules script s) (rest : Interspersed rules script xs ys) :
    Interspersed rules script xs (s :: ys)

/-- Two memories of tried names agree on the helpers that have a kind. -/
def Alike (rules : List Rule) (script : Text) (tried tried' : List Text) : Prop :=
  ∀ name kind, helperKind? rules script name = some kind → (name ∈ tried ↔ name ∈ tried')

namespace Alike

variable {rules : List Rule} {script : Text}

theorem refl (tried : List Text) : Alike rules script tried tried := fun _ _ _ => Iff.rfl

theorem symm (h : Alike rules script tried tried') : Alike rules script tried' tried :=
  fun name kind found => (h name kind found).symm

theorem trans (h : Alike rules script tried tried') (h' : Alike rules script tried' tried'') :
    Alike rules script tried tried'' :=
  fun name kind found => (h name kind found).trans (h' name kind found)

theorem cons (h : Alike rules script tried tried') (name : Text) :
    Alike rules script (name :: tried) (name :: tried') := by
  intro other kind found
  rw [List.mem_cons, List.mem_cons, h other kind found]

/-- A helper without a kind need not be remembered. -/
theorem forget (unknown : helperKind? rules script name = none) (tried : List Text) :
    Alike rules script (name :: tried) tried := by
  intro other kind found
  rw [List.mem_cons, or_iff_right]
  rintro rfl
  rw [unknown] at found
  cases found

end Alike

theorem classifyFrom_covered (h : Bindings.covers b (rules.map Rule.kind) = true) (ss : List Text) :
    classifyFrom rules script tried b ss = b := by
  cases ss with
  | nil => rfl
  | cons s ss => rw [classifyFrom_cons, if_pos h]

/-- An idle statement binds nothing, and leaves a memory that is as good as the one it met. -/
theorem classifyFrom_pass (idle : Idle rules script s) (tried : List Text) (b : Bindings)
    (ss : List Text) : ∃ tried', Alike rules script tried' tried ∧
      classifyFrom rules script tried b (s :: ss) = classifyFrom rules script tried' b ss := by
  by_cases covered : b.covers (rules.map Rule.kind) = true
  · exact ⟨tried, .refl tried, by rw [classifyFrom_covered covered, classifyFrom_covered covered]⟩
  · rw [classifyFrom_cons, if_neg covered]
    cases call : calledHelper? s with
    | none => exact ⟨tried, .refl tried, rfl⟩
    | some name =>
      have unknown := idle name call
      by_cases known : name ∈ tried
      · exact ⟨tried, .refl tried, by simp only [known, if_true]⟩
      · exact ⟨name :: tried, .forget unknown tried, by simp only [known, if_false, unknown]⟩

/-- Whether a helper without a kind has been tried before makes no difference. -/
theorem classifyFrom_congr (alike : Alike rules script tried tried') (b : Bindings)
    (ss : List Text) :
    classifyFrom rules script tried b ss = classifyFrom rules script tried' b ss := by
  induction ss generalizing tried tried' b with
  | nil => rfl
  | cons s ss ih =>
    by_cases idle : Idle rules script s
    · obtain ⟨left, hl, stepLeft⟩ := classifyFrom_pass idle tried b ss
      obtain ⟨right, hr, stepRight⟩ := classifyFrom_pass idle tried' b ss
      rw [stepLeft, stepRight]
      exact ih ((hl.trans alike).trans hr.symm) b
    · obtain ⟨name, call, known⟩ : ∃ name, calledHelper? s = some name ∧
          helperKind? rules script name ≠ none := by simpa [Idle] using idle
      obtain ⟨kind, found⟩ := Option.ne_none_iff_exists'.mp known
      rw [classifyFrom_cons, classifyFrom_cons]
      simp only [call, found, alike name kind found]
      split
      · rfl
      · split
        · exact ih alike b
        · exact ih (alike.cons name) (b.bind name kind)

theorem classifyFrom_idle (idle : Idle rules script s) (tried : List Text) (b : Bindings)
    (ss : List Text) :
    classifyFrom rules script tried b (s :: ss) = classifyFrom rules script tried b ss := by
  obtain ⟨tried', alike, step⟩ := classifyFrom_pass idle tried b ss
  rw [step, classifyFrom_congr alike]

/-- Idle statements may stand anywhere. -/
theorem classifyFrom_interspersed (h : Interspersed rules script xs ys) (tried : List Text)
    (b : Bindings) :
    classifyFrom rules script tried b ys = classifyFrom rules script tried b xs := by
  induction h generalizing tried b with
  | nil => rfl
  | keep s rest ih => simp only [classifyFrom_cons, ih]
  | insert idle rest ih => rw [classifyFrom_idle idle, ih]

/-- A helper without a kind is not bound. -/
theorem kindOf?_idle (idle : Idle rules script s) (ss : List Text) :
    (calledHelper? s).bind (classify rules script ss).kindOf? = none := by
  cases call : calledHelper? s with
  | none => rfl
  | some name =>
    rw [Option.bind_some, Option.eq_none_iff_forall_ne_some]
    intro kind bound
    have found := (firstOfKind?_eq_some ((kindOf?_classify rules script ss name kind).mp bound)).2
    rw [idle name call] at found
    cases found

/-- A statement whose helper has no kind is refused. -/
theorem exists_refused (h : (calledHelper? s).bind b.kindOf? = none) :
    ∃ fault, Refused b s fault := by
  cases call : calledHelper? s with
  | none => exact ⟨_, .uncalled call⟩
  | some name =>
    rw [call, Option.bind_some] at h
    exact ⟨_, .unbound call h⟩

/-- Statements that stand for nothing can be left out of a program. -/
theorem sequence_interspersed (h : Interspersed rules script xs ys) {b : Bindings}
    (unbound : ∀ s, Idle rules script s → (calledHelper? s).bind b.kindOf? = none) :
    sequence .ignore b ys = sequence .ignore b xs := by
  induction h with
  | nil => rfl
  | keep s rest ih => simp only [sequence, ih]
  | @insert s xs ys idle rest ih =>
    obtain ⟨p, hp⟩ := sequence_ignore b xs
    rw [hp] at ih ⊢
    exact sequence_cons_ok.mpr ⟨none, p, operation?_unbound (unbound s idle), ih, rfl⟩

/-- A list that is longer has an idle statement. -/
theorem Interspersed.exists_idle (h : Interspersed rules script xs ys)
    (longer : xs.length < ys.length) : ∃ s ∈ ys, Idle rules script s := by
  induction h with
  | nil => cases longer
  | keep s rest ih =>
    obtain ⟨t, ht, idle⟩ := ih (Nat.lt_of_succ_lt_succ longer)
    exact ⟨t, List.mem_cons_of_mem s ht, idle⟩
  | insert idle rest ih => exact ⟨_, List.mem_cons_self, idle⟩

/-- Statements whose helper has no kind change neither the bindings nor the program, wherever they
stand. The strict policy refuses a list with such a statement, and names the first one it cannot
use. -/
theorem classify_interspersed (rules : List Rule) (script : Text) (xs ys : List Text)
    (h : Interspersed rules script xs ys) :
    classify rules script ys = classify rules script xs ∧
    (∃ p, sequence .ignore (classify rules script ys) ys = .ok p ∧
      sequence .ignore (classify rules script xs) xs = .ok p) ∧
    (xs.length < ys.length → ∃ fault,
      sequence .failFast (classify rules script ys) ys = .error fault ∧
        FirstRefused (classify rules script ys) ys fault) := by
  have same : classify rules script ys = classify rules script xs :=
    classifyFrom_interspersed h [] {}
  have unbound : ∀ s, Idle rules script s →
      (calledHelper? s).bind (classify rules script xs).kindOf? = none := by
    intro s idle
    exact kindOf?_idle idle xs
  rw [same]
  refine ⟨rfl, ?_, ?_⟩
  · obtain ⟨p, hp⟩ := sequence_ignore (classify rules script xs) xs
    exact ⟨p, (sequence_interspersed h unbound).trans hp, hp⟩
  · intro longer
    obtain ⟨s, hs, idle⟩ := h.exists_idle longer
    obtain ⟨fault, first⟩ := exists_firstRefused.mpr ⟨s, hs, exists_refused (unbound s idle)⟩
    exact ⟨fault, sequence_failFast_error.mpr first, first⟩

/-- Nothing is known of the second helper, and the third statement calls none. -/
theorem classify_interspersed_unknown :
    let script := "O={r:function(p){p.reverse()}}".toList
    let call := "O.r(a)".toList
    let ys := [call, "O.gone(a,7)".toList, "a=1".toList]
    Interspersed Rule.standard script [call] ys ∧
    sequence .ignore (classify Rule.standard script ys) ys = .ok [.reverse] ∧
    sequence .failFast (classify Rule.standard script ys) ys =
      .error (.unknownOperation "gone".toList) := by
  intro script call ys
  have gone : Idle Rule.standard script "O.gone(a,7)".toList := by
    intro name called
    have first : calledHelper? "O.gone(a,7)".toList = some "gone".toList := rfl
    rw [first, Option.some.injEq] at called
    subst called
    rfl
  have silent : Idle Rule.standard script "a=1".toList := by
    intro name called
    cases called
  have inserted : Interspersed Rule.standard script [call] ys :=
    .keep call (.insert gone (.insert silent .nil))
  obtain ⟨same, ⟨p, hp, alone⟩, -⟩ := classify_interspersed Rule.standard script [call] ys inserted
  have program :
      sequence .ignore (classify Rule.standard script [call]) [call] = .ok [.reverse] := rfl
  refine ⟨inserted, ?_, ?_⟩
  · rw [hp, ← alone, program]
  · rw [same]
    rfl

end Descramble.Script
