import Descramble.Proofs.Script.Numeral
import Descramble.Script.Parser

namespace Descramble.Script

/-- What makes a statement useless under the strict policy, and the fault it is refused with. -/
inductive Refused (b : Bindings) (s : Text) : Fault → Prop
  | uncalled (call : calledHelper? s = none) : Refused b s (.unknownOperation s)
  | unbound (call : calledHelper? s = some name) (kind : b.kindOf? name = none) :
    Refused b s (.unknownOperation name)
  | absent (call : calledHelper? s = some name) (bound : b.kindOf? name = some kind)
    (scrambles : kind = .slice ∨ kind = .swap) (operand : operand? s = none) :
    Refused b s (.missingOperand kind s)
  | unreadable (call : calledHelper? s = some name) (bound : b.kindOf? name = some kind)
    (scrambles : kind = .slice ∨ kind = .swap) (operand : operand? s = some o)
    (digits : ¬ IsNumeral o.digits) : Refused b s (.badNumeral (numeralFault o.digits))

/-- The first statement of a list that is refused, whatever stands behind it. -/
def FirstRefused (b : Bindings) (ss : List Text) (fault : Fault) : Prop :=
  ∃ before s after, ss = before ++ s :: after ∧ (∀ t ∈ before, ∀ other, ¬ Refused b t other) ∧
    Refused b s fault

theorem takesOperand_iff {kind : Kind} :
    kind.takesOperand = true ↔ kind = .slice ∨ kind = .swap := by
  cases kind <;> simp [Kind.takesOperand]

theorem readOperand_ok (ho : operand? s = some o) (hd : IsNumeral o.digits) :
    readOperand kind s = .ok (.ofNat (numeralValue o.digits)) := by
  simp only [readOperand, ho, readDigits_ok hd]

theorem readOperand_error (ho : operand? s = some o) (hd : ¬ IsNumeral o.digits) :
    readOperand kind s = .error (.badNumeral (numeralFault o.digits)) := by
  simp only [readOperand, ho, readDigits_error hd]

/-- The strict policy refuses exactly the useless statements. -/
theorem operation?_failFast_error :
    operation? .failFast b s = .error fault ↔ Refused b s fault := by
  constructor
  · intro h
    cases call : calledHelper? s with
    | none =>
      simp only [operation?, call, Option.bind_none, Option.getD_none, Except.error.injEq] at h
      exact h ▸ .uncalled call
    | some name =>
      cases bound : b.kindOf? name with
      | none =>
        simp only [operation?, call, Option.bind_some, bound, Option.getD_some,
          Except.error.injEq] at h
        exact h ▸ .unbound call bound
      | some kind =>
        simp only [operation?, call, Option.bind_some, bound] at h
        split at h
        · next takes =>
          have scrambles := takesOperand_iff.mp takes
          cases operand : operand? s with
          | none =>
            simp only [readOperand, operand, Except.error.injEq] at h
            exact h ▸ .absent call bound scrambles operand
          | some o =>
            by_cases digits : IsNumeral o.digits
            · simp only [readOperand_ok operand digits, reduceCtorEq] at h
            · simp only [readOperand_error operand digits, Except.error.injEq] at h
              exact h ▸ .unreadable call bound scrambles operand digits
        · cases h
  · intro h
    cases h with
    | uncalled call => simp only [operation?, call, Option.bind_none, Option.getD_none]
    | unbound call kind => simp only [operation?, call, Option.bind_some, kind, Option.getD_some]
    | absent call bound scrambles operand =>
      simp only [operation?, call, Option.bind_some, bound, takesOperand_iff.mpr scrambles,
        ↓reduceIte, readOperand, operand]
    | unreadable call bound scrambles operand digits =>
      simp only [operation?, call, Option.bind_some, bound, takesOperand_iff.mpr scrambles,
        ↓reduceIte, readOperand_error operand digits]

theorem operation?_unbound (h : (calledHelper? s).bind b.kindOf? = none) :
    operation? .ignore b s = .ok none := by
  simp only [operation?, h]

theorem operation?_read (bound : (calledHelper? s).bind b.kindOf? = some kind)
    (takes : kind.takesOperand = true) (read : readOperand kind s = .ok n) (policy : Policy) :
    operation? policy b s = .ok (some (.ofKind kind n)) := by
  cases policy <;> simp only [operation?, bound, takes, if_true, read]

theorem operation?_ignore_unread (bound : (calledHelper? s).bind b.kindOf? = some kind)
    (takes : kind.takesOperand = true) (unread : readOperand kind s = .error fault) :
    operation? .ignore b s = .ok (some (.ofKind kind 0)) := by
  simp only [operation?, bound, takes, if_true, unread]

/-- The permissive policy accepts every statement. -/
theorem operation?_ignore (b : Bindings) (s : Text) : ∃ op, operation? .ignore b s = .ok op := by
  simp only [operation?]
  split
  · exact ⟨none, rfl⟩
  · next kind _ =>
    split
    · cases readOperand kind s with
      | ok n => exact ⟨some (.ofKind kind n), rfl⟩
      | error fault => exact ⟨some (.ofKind kind 0), rfl⟩
    · exact ⟨some (.ofKind kind 0), rfl⟩

/-- A statement that the strict policy accepts stands for the same operation under both. -/
theorem operation?_refines (h : operation? .failFast b s = .ok op) :
    operation? .ignore b s = .ok op := by
  simp only [operation?] at h ⊢
  split
  · next unbound =>
    simp only [unbound, reduceCtorEq] at h
  · next kind bound =>
    simp only [bound] at h
    split
    · next takes =>
      rw [if_pos takes] at h
      cases operand : readOperand kind s with
      | ok n => simpa only [operand] using h
      | error fault => simp only [operand, reduceCtorEq] at h
    · next plain =>
      rw [if_neg plain] at h
      exact h

theorem sequence_cons_ok : sequence policy b (s :: ss) = .ok p ↔
    ∃ op rest, operation? policy b s = .ok op ∧ sequence policy b ss = .ok rest ∧
      op.toList ++ rest = p := by
  cases hs : operation? policy b s <;> cases hss : sequence policy b ss <;>
    simp [sequence, hs, hss, bind, Except.bind, pure, Except.pure]

theorem sequence_cons_error : sequence policy b (s :: ss) = .error fault ↔
    operation? policy b s = .error fault ∨
      (∃ op, operation? policy b s = .ok op) ∧ sequence policy b ss = .error fault := by
  cases hs : operation? policy b s <;> cases hss : sequence policy b ss <;>
    simp [sequence, hs, hss, bind, Except.bind, pure, Except.pure]

/-- The permissive policy refuses nothing. -/
theorem sequence_ignore (b : Bindings) (ss : List Text) : ∃ p, sequence .ignore b ss = .ok p := by
  induction ss with
  | nil => exact ⟨[], rfl⟩
  | cons s ss ih =>
    obtain ⟨op, hop⟩ := operation?_ignore b s
    obtain ⟨rest, hrest⟩ := ih
    exact ⟨op.toList ++ rest, sequence_cons_ok.mpr ⟨op, rest, hop, hrest, rfl⟩⟩

theorem sequence_refines (h : sequence .failFast b ss = .ok p) : sequence .ignore b ss = .ok p := by
  induction ss generalizing p with
  | nil => exact h
  | cons s ss ih =>
    obtain ⟨op, rest, hop, hrest, rfl⟩ := sequence_cons_ok.mp h
    exact sequence_cons_ok.mpr ⟨op, rest, operation?_refines hop, ih hrest, rfl⟩

theorem FirstRefused.here (h : Refused b s fault) : FirstRefused b (s :: ss) fault :=
  ⟨[], s, ss, rfl, nofun, h⟩

theorem firstRefused_cons : FirstRefused b (s :: ss) fault ↔
    Refused b s fault ∨ (∀ other, ¬ Refused b s other) ∧ FirstRefused b ss fault := by
  constructor
  · rintro ⟨before, t, after, split, passed, refused⟩
    cases before with
    | nil =>
      obtain ⟨rfl, -⟩ := List.cons.inj split
      exact .inl refused
    | cons u before =>
      obtain ⟨rfl, rfl⟩ := List.cons.inj split
      exact .inr ⟨passed s (by simp), before, t, after, rfl,
        fun v hv => passed v (List.mem_cons_of_mem s hv), refused⟩
  · rintro (refused | ⟨accepted, before, t, after, rfl, passed, refused⟩)
    · exact .here refused
    · refine ⟨s :: before, t, after, rfl, ?_, refused⟩
      intro u hu
      rcases List.mem_cons.mp hu with rfl | hu
      · exact accepted
      · exact passed u hu

/-- Some statement is refused, so one is refused first. -/
theorem exists_firstRefused :
    (∃ fault, FirstRefused b ss fault) ↔ ∃ s ∈ ss, ∃ fault, Refused b s fault := by
  constructor
  · rintro ⟨fault, before, s, after, rfl, -, refused⟩
    exact ⟨s, by simp, fault, refused⟩
  · intro h
    induction ss with
    | nil => simp at h
    | cons s ss ih =>
      obtain ⟨t, ht, fault, refused⟩ := h
      by_cases first : ∃ other, Refused b s other
      · obtain ⟨other, refused⟩ := first
        exact ⟨other, .here refused⟩
      · rcases List.mem_cons.mp ht with rfl | ht
        · exact absurd ⟨fault, refused⟩ first
        · obtain ⟨other, behind⟩ := ih ⟨t, ht, fault, refused⟩
          exact ⟨other, firstRefused_cons.mpr (.inr ⟨not_exists.mp first, behind⟩)⟩

/-- The first refused statement decides how the strict policy fails. -/
theorem sequence_failFast_error :
    sequence .failFast b ss = .error fault ↔ FirstRefused b ss fault := by
  induction ss with
  | nil => simp [sequence, FirstRefused]
  | cons s ss ih =>
    have accepted : (∃ op, operation? .failFast b s = .ok op) ↔ ∀ other, ¬ Refused b s other := by
      simp only [← operation?_failFast_error]
      cases operation? .failFast b s <;> simp
    rw [sequence_cons_error, firstRefused_cons, operation?_failFast_error, accepted, ih]

/-- Under either policy a fault is that of a refused statement. -/
theorem sequence_error (h : sequence policy b ss = .error fault) : ∃ s, Refused b s fault := by
  cases policy with
  | ignore =>
    obtain ⟨p, hp⟩ := sequence_ignore b ss
    rw [hp] at h
    cases h
  | failFast =>
    obtain ⟨-, s, -, -, -, refused⟩ := sequence_failFast_error.mp h
    exact ⟨s, refused⟩

def candidates (key : Text) (extraction : Extraction) (script : Text) :
    Except Fault (List Text) := do
  let entry ← findEntry key script
  let body ← extraction.extract entry script
  return statements body

theorem Parser.parse_eq (p : Parser) (script : Text) : p.parse script =
    candidates p.key p.extraction script >>= fun ss =>
      sequence p.policy (classify p.rules script ss) ss := by
  rw [Parser.parse_steps, candidates]
  cases findEntry p.key script with
  | error fault => rfl
  | ok entry =>
    cases body : p.extraction.extract entry script <;>
      simp [body, bind, Except.bind, pure, Except.pure]

theorem findEntry_error (h : findEntry key script = .error fault) : fault = .entryNotFound key :=
  (findEntry_eq_error_iff.mp h).2

theorem Extraction.extract_error {e : Extraction} {entry : Text}
    (h : e.extract entry script = .error fault) : fault = .bodyNotFound entry :=
  (extract_eq_error_iff.mp h).2

/-- No statements are found if the entry function is missing, or the body of it. -/
theorem candidates_error (h : candidates key extraction script = .error fault) :
    fault = .entryNotFound key ∨ ∃ name, fault = .bodyNotFound name := by
  cases entry : findEntry key script with
  | error other =>
    have same : other = fault := by simpa [candidates, entry, bind, Except.bind] using h
    exact .inl (same ▸ findEntry_error entry)
  | ok name =>
    cases body : extraction.extract name script with
    | error other =>
      have same : other = fault := by
        simpa [candidates, entry, body, bind, Except.bind] using h
      exact .inr ⟨name, same ▸ Extraction.extract_error body⟩
    | ok text => simp [candidates, entry, body, bind, Except.bind, pure, Except.pure] at h

/-- A script is unusable because it has no candidate statements, or because one is refused. -/
theorem Parser.parse_error {p : Parser} (h : p.parse script = .error fault) :
    (fault = .entryNotFound p.key ∨ ∃ name, fault = .bodyNotFound name) ∨
      ∃ b s, Refused b s fault := by
  rw [parse_eq] at h
  cases found : candidates p.key p.extraction script with
  | error other =>
    have same : other = fault := by simpa [found, bind, Except.bind] using h
    exact .inl (same ▸ candidates_error found)
  | ok ss =>
    have failed : sequence p.policy (classify p.rules script ss) ss = .error fault := by
      simpa only [found, bind, Except.bind] using h
    obtain ⟨s, refused⟩ := sequence_error failed
    exact .inr ⟨_, s, refused⟩

/-- The strict policy finds the same program as the permissive one or none. It alone refuses a
script exactly when it refuses one of the candidate statements, and it names the first. -/
theorem Parser.parse_failFast_refines (key : Text) (extraction : Extraction) (rules : List Rule)
    (script : Text) :
    let strict := Parser.parse { key, extraction, policy := .failFast, rules } script
    let permissive := Parser.parse { key, extraction, policy := .ignore, rules } script
    (∀ p, strict = .ok p → permissive = .ok p) ∧
    (∀ fault, permissive = .error fault →
      (fault = .entryNotFound key ∨ ∃ name, fault = .bodyNotFound name) ∧ strict = .error fault) ∧
    (((∃ fault, strict = .error fault) ∧ ∃ p, permissive = .ok p) ↔
      ∃ ss, candidates key extraction script = .ok ss ∧
        ∃ s ∈ ss, ∃ fault, Refused (classify rules script ss) s fault) ∧
    ∀ fault, (strict = .error fault ∧ ∃ p, permissive = .ok p) ↔
      ∃ ss, candidates key extraction script = .ok ss ∧
        FirstRefused (classify rules script ss) ss fault := by
  simp only [Parser.parse_eq]
  cases found : candidates key extraction script with
  | error fault =>
    have cause := candidates_error found
    simp only [bind, Except.bind]
    refine ⟨nofun, ?_, ?_, ?_⟩
    · rintro other ⟨⟩
      exact ⟨cause, rfl⟩
    · simp
    · simp
  | ok ss =>
    obtain ⟨p, hp⟩ := sequence_ignore (classify rules script ss) ss
    simp only [bind, Except.bind, hp, sequence_failFast_error]
    refine ⟨?_, nofun, ?_, ?_⟩
    · intro q hq
      rw [← hp]
      exact sequence_refines hq
    · simp [exists_firstRefused]
    · simp

end Descramble.Script
