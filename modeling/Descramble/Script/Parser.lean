import Descramble.Log
import Descramble.Script.Function
import Descramble.Script.Sequence
import Descramble.Text.Utf8

namespace Descramble.Script

structure Options where
  key : Text := defaultKey
  extraction : Extraction := .firstBrace
  policy : Policy := .ignore
  deriving DecidableEq

structure Parser extends Options where
  rules : List Rule := Rule.standard

/-- The patterns that scripts are searched for, and the names that are part of them. -/
inductive Pattern
  | entry (key : Text)
  | definition (name : Text)
  | member (name : Text)
  | call
  | operand

/-- Which patterns cannot be built, and why. -/
abbrev Engine := Pattern → Option PatternFault

abbrev Extractor := Text → Text → Logged Fault Text

namespace Engine

/-- Builds every pattern. -/
def standard : Engine := fun _ => none

variable (engine : Engine)

def build (pattern : Pattern) : Logged Fault Unit :=
  match engine pattern with
  | some cause => .ofExcept (.error (.badPattern cause))
  | none => pure ()

def locate (key script : Text) : Logged Fault Text := do
  engine.build (.entry key)
  let name ← findEntry key script
  .tell .debug ("Found entry function: ".toList ++ name)
  return name

def extractor (e : Extraction) : Extractor := fun name script => do
  engine.build (.definition name)
  let body ← e.extract name script
  .tell .debug ("Extracted ".toList ++ adjective ++ "body of ".toList ++ name ++ " (".toList ++
    Text.decimal (Text.utf8 body).length ++ " bytes)".toList)
  return body
where
  adjective : Text := match e with
    | .firstBrace => []
    | .balanced => "balanced ".toList

def verdict (b : Bindings) (name : Text) : Option Kind → Text
  | none => "Could not classify ".toList ++ name
  | some kind =>
    if b.has kind then
      name ++ " looks like ".toList ++ kind.name ++ " but that kind is already bound".toList
    else "Classified ".toList ++ name ++ " as ".toList ++ kind.name

/-- As `Script.classifyFrom`, with a pattern for each helper that is looked up. -/
def classifyFrom (rules : List Rule) (script : Text) (tried : List Text) (b : Bindings) :
    List Text → Logged Fault Bindings
  | [] => pure b
  | s :: ss =>
    if b.covers (rules.map Rule.kind) then pure b
    else
      match calledHelper? s with
      | none => classifyFrom rules script tried b ss
      | some name =>
        if name ∈ tried then classifyFrom rules script tried b ss
        else do
          engine.build (.member name)
          .tell .debug (verdict b name (helperKind? rules script name))
          match helperKind? rules script name with
          | none => classifyFrom rules script (name :: tried) b ss
          | some kind => classifyFrom rules script (name :: tried) (b.bind name kind) ss

theorem classifyFrom_cons (rules : List Rule) (script : Text) (tried : List Text) (b : Bindings)
    (s : Text) (ss : List Text) : engine.classifyFrom rules script tried b (s :: ss) =
      if b.covers (rules.map Rule.kind) then pure b
      else
        match calledHelper? s with
        | none => engine.classifyFrom rules script tried b ss
        | some name =>
          if name ∈ tried then engine.classifyFrom rules script tried b ss
          else (do
            engine.build (.member name)
            .tell .debug (verdict b name (helperKind? rules script name))
            match helperKind? rules script name with
            | none => engine.classifyFrom rules script (name :: tried) b ss
            | some kind =>
              engine.classifyFrom rules script (name :: tried) (b.bind name kind) ss) := rfl

def classify (rules : List Rule) (script : Text) (statements : List Text) :
    Logged Fault Bindings := do
  engine.build .call
  engine.classifyFrom rules script [] {} statements

def remarks (policy : Policy) (b : Bindings) (s : Text) : List Record :=
  match (calledHelper? s).bind b.kindOf? with
  | none =>
    match policy with
    | .ignore => [⟨.debug, "Skipping unclassified statement: ".toList ++ s⟩]
    | .failFast => [⟨.warn, "Unclassified statement: ".toList ++ s⟩]
  | some kind =>
    if kind.takesOperand then
      match policy, readOperand kind s with
      | .ignore, .error fault => [⟨.warn, fault.message ++ ", using 0".toList⟩]
      | _, _ => []
    else []

def sequenceFrom (policy : Policy) (b : Bindings) : List Text → Logged Fault Program
  | [] => pure []
  | s :: ss => do
    let op ← (⟨remarks policy b s, operation? policy b s⟩ : Logged Fault (Option Operation))
    let rest ← sequenceFrom policy b ss
    return op.toList ++ rest

def sequence (policy : Policy) (b : Bindings) (statements : List Text) : Logged Fault Program := do
  engine.build .call
  engine.build .operand
  let p ← sequenceFrom policy b statements
  .tell .debug ("Sequenced ".toList ++ Text.decimal p.length ++ " operations".toList)
  return p

theorem result_build (pattern : Pattern) : (standard.build pattern).result = pure () := rfl

theorem result_locate (key script : Text) :
    (standard.locate key script).result = findEntry key script := by
  simp [locate, result_build]

theorem result_extractor (e : Extraction) (name script : Text) :
    (standard.extractor e name script).result = e.extract name script := by
  simp [extractor, result_build]

/-- Patterns that can all be built make no difference to what is bound. -/
theorem result_classifyFrom (rules : List Rule) (script : Text) (tried : List Text) (b : Bindings)
    (ss : List Text) : (standard.classifyFrom rules script tried b ss).result =
      pure (Script.classifyFrom rules script tried b ss) := by
  induction ss generalizing tried b with
  | nil => rfl
  | cons s ss ih =>
    rw [classifyFrom_cons, Script.classifyFrom_cons]
    by_cases covered : b.covers (rules.map Rule.kind) = true
    · simp [covered]
    cases called : calledHelper? s with
    | none => simpa [covered] using ih tried b
    | some name =>
      by_cases known : name ∈ tried
      · simpa [covered, known] using ih tried b
      cases found : helperKind? rules script name with
      | none => simpa [covered, known, found, result_build] using ih (name :: tried) b
      | some kind =>
        simpa [covered, known, found, result_build] using ih (name :: tried) (b.bind name kind)

theorem result_classify (rules : List Rule) (script : Text) (ss : List Text) :
    (standard.classify rules script ss).result = pure (Script.classify rules script ss) := by
  simp [classify, result_build, result_classifyFrom, Script.classify]

theorem result_sequenceFrom (policy : Policy) (b : Bindings) (ss : List Text) :
    (sequenceFrom policy b ss).result = Script.sequence policy b ss := by
  induction ss with
  | nil => rfl
  | cons s ss ih => simp [sequenceFrom, Script.sequence, ih]

theorem result_sequence (policy : Policy) (b : Bindings) (ss : List Text) :
    (standard.sequence policy b ss).result = Script.sequence policy b ss := by
  simp [sequence, result_build, result_sequenceFrom]

end Engine

namespace Parser

/-- Reads the program of a script with any engine, and with any way to find a body. -/
def read (p : Parser) (engine : Engine) (extractor : Extractor) (script : Text) :
    Logged Fault Program := do
  .tell .debug ("Parsing player script (".toList ++ Text.decimal (Text.utf8 script).length ++
    " bytes)".toList)
  let entry ← engine.locate p.key script
  let body ← extractor entry script
  let lines := statements body
  .tell .debug ("Found ".toList ++ Text.decimal lines.length ++
    " candidate statements in ".toList ++
    entry)
  let b ← engine.classify p.rules script lines
  let program ← engine.sequence p.policy b lines
  .tell .info ("Parsed descrambling program: ".toList ++ Program.text program)
  return program

/-- Reads a script with patterns that can all be built, in the way that the options name. -/
def work (p : Parser) : Text → Logged Fault Program :=
  p.read Engine.standard (Engine.standard.extractor p.extraction)

def parse (p : Parser) (script : Text) : Except Fault Program := (p.work script).result

/-- Without its messages, reading is finding the function, cutting out its body, and giving each
statement of it the operation that its helper is classified as. -/
theorem parse_steps (p : Parser) (script : Text) : p.parse script =
    findEntry p.key script >>= fun entry =>
      p.extraction.extract entry script >>= fun body =>
        sequence p.policy (classify p.rules script (statements body)) (statements body) := by
  simp [parse, work, read, Engine.result_locate, Engine.result_extractor, Engine.result_classify,
    Engine.result_sequence]

end Parser
end Descramble.Script
