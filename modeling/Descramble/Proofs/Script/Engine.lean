import Descramble.Proofs.Script.Policy

namespace Descramble

/-- The fault makes a script unusable, whatever the signature. -/
structure Fault.OfScript (fault : Fault) : Prop where
  parse : fault.isParseFailure = true
  apply : fault.isApplyFailure = false

namespace Logged

variable {α β : Type} {P Q : Fault → Prop}

/-- Whatever fault ends the work has the property. -/
def Raises (P : Fault → Prop) (x : Logged Fault α) : Prop :=
  ∀ fault, x.result = .error fault → P fault

theorem Raises.mono {x : Logged Fault α} (h : x.Raises P) (weaker : ∀ fault, P fault → Q fault) :
    x.Raises Q :=
  fun fault failed => weaker fault (h fault failed)

theorem raises_pure (a : α) : (pure a : Logged Fault α).Raises P := nofun

theorem raises_tell (level : Level) (message : Text) : (tell level message).Raises P := nofun

/-- Work in two parts raises what its parts raise. -/
theorem Raises.bind {x : Logged Fault α} {f : α → Logged Fault β} (first : x.Raises P)
    (second : ∀ a, (f a).Raises P) : (x >>= f).Raises P := by
  intro fault failed
  obtain early | ⟨a, -, late⟩ := result_bind_eq_error.mp failed
  · exact first fault early
  · exact second a fault late

end Logged

namespace Script

open Logged (raises_pure raises_tell)

theorem Refused.ofScript (h : Refused b s fault) : fault.OfScript := by
  cases h <;> exact ⟨rfl, rfl⟩

/-- Only the strict policy fails, and only at a statement that it refuses. -/
theorem operation?_error (h : operation? policy b s = .error fault) : Refused b s fault := by
  cases policy with
  | ignore =>
    obtain ⟨op, accepted⟩ := operation?_ignore b s
    rw [accepted] at h
    cases h
  | failFast => exact operation?_failFast_error.mp h

namespace Engine

variable (engine : Engine)

theorem build_raises (pattern : Pattern) : (engine.build pattern).Raises Fault.OfScript := by
  unfold build
  split
  · rintro fault ⟨⟩
    exact ⟨rfl, rfl⟩
  · exact raises_pure ()

theorem locate_raises (key script : Text) :
    (engine.locate key script).Raises Fault.OfScript := by
  refine (engine.build_raises _).bind fun _ => Logged.Raises.bind ?_ fun name =>
    (raises_tell _ _).bind fun _ => raises_pure name
  intro fault failed
  cases findEntry_error failed
  exact ⟨rfl, rfl⟩

theorem extractor_raises (e : Extraction) (name script : Text) :
    (engine.extractor e name script).Raises Fault.OfScript := by
  refine (engine.build_raises _).bind fun _ => Logged.Raises.bind ?_ fun body =>
    (raises_tell _ _).bind fun _ => raises_pure body
  intro fault failed
  cases Extraction.extract_error failed
  exact ⟨rfl, rfl⟩

/-- Only a pattern that cannot be built ends a classification. -/
theorem classifyFrom_raises (rules : List Rule) (script : Text) (tried : List Text) (b : Bindings)
    (ss : List Text) : (engine.classifyFrom rules script tried b ss).Raises Fault.OfScript := by
  induction ss generalizing tried b with
  | nil => exact raises_pure b
  | cons s ss ih =>
    rw [classifyFrom_cons]
    split
    · exact raises_pure b
    · split
      · exact ih tried b
      · split
        · exact ih tried b
        · refine (engine.build_raises _).bind fun _ => (raises_tell _ _).bind fun _ => ?_
          split
          · exact ih _ b
          · exact ih _ _

theorem sequenceFrom_raises (policy : Policy) (b : Bindings) (ss : List Text) :
    (sequenceFrom policy b ss).Raises Fault.OfScript := by
  induction ss with
  | nil => exact raises_pure []
  | cons s ss ih =>
    exact Logged.Raises.bind (fun _ failed => (operation?_error failed).ofScript) fun op =>
      ih.bind fun rest => raises_pure (op.toList ++ rest)

theorem sequence_raises (policy : Policy) (b : Bindings) (ss : List Text) :
    (engine.sequence policy b ss).Raises Fault.OfScript :=
  (engine.build_raises _).bind fun _ => (engine.build_raises _).bind fun _ =>
    (sequenceFrom_raises policy b ss).bind fun p => (raises_tell _ _).bind fun _ => raises_pure p

end Engine

/-- A way to find bodies that raises nothing else leaves parsing with faults of scripts. -/
theorem Parser.read_raises (p : Parser) (engine : Engine) {extractor : Extractor}
    {P : Fault → Prop} (usual : ∀ fault : Fault, fault.OfScript → P fault) (script : Text)
    (own : ∀ name, (extractor name script).Raises P) :
    (p.read engine extractor script).Raises P := by
  refine (raises_tell _ _).bind fun _ => ((engine.locate_raises _ _).mono usual).bind fun entry =>
    (own entry).bind fun body => (raises_tell _ _).bind fun _ => ?_
  refine Logged.Raises.bind (.mono ?_ usual) fun b =>
    ((engine.sequence_raises _ b _).mono usual).bind
    fun program => (raises_tell _ _).bind fun _ => raises_pure program
  exact (engine.build_raises _).bind fun _ => engine.classifyFrom_raises _ _ _ _ _

end Script
end Descramble
