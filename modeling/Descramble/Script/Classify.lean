import Descramble.Operation
import Descramble.Script.Helper
import Descramble.Text.Search

namespace Descramble.Script

/-- The statements between the first and the last semicolon of a body, without blank ones. The
first piece splits the signature into characters and the last one joins them again. -/
def statements (body : Text) : List Text :=
  (((Text.pieces (· == ';') body).tail.dropLast).map Text.trim).filter (!·.isEmpty)

structure Call where
  helper : Text
  arguments : Text
  deriving DecidableEq

def callAt? (s : Text) : Option Call := do
  let (_, s) ← Text.word? s
  let s ← Text.char? '.' s
  let (helper, s) ← Text.word? s
  let s ← Text.char? '(' s
  return ⟨helper, s⟩

def call? (statement : Text) : Option Call := Text.leftmost callAt? statement

def calledHelper? (statement : Text) : Option Text := (call? statement).map Call.helper

/-- The helper found for each kind; no kind and no name occurs twice. -/
structure Bindings where
  entries : List (Text × Kind) := []
  deriving DecidableEq

namespace Bindings

def kindOf? (b : Bindings) (name : Text) : Option Kind :=
  (b.entries.find? fun e => e.1 == name).map Prod.snd

def nameOf? (b : Bindings) (kind : Kind) : Option Text :=
  (b.entries.find? fun e => e.2 == kind).map Prod.fst

def has (b : Bindings) (kind : Kind) : Bool := (b.nameOf? kind).isSome

def covers (b : Bindings) (kinds : List Kind) : Bool := kinds.all b.has

def size (b : Bindings) : Nat := b.entries.length

/-- A name keeps one kind only, the last it is given. -/
def insert (b : Bindings) (name : Text) (kind : Kind) : Bindings :=
  ⟨(name, kind) :: b.entries.filter fun e => e.1 != name⟩

/-- The first name for a kind stays. -/
def bind (b : Bindings) (name : Text) (kind : Kind) : Bindings :=
  if b.has kind then b else b.insert name kind

def tryBind (b : Bindings) (name : Text) (kind : Kind) : Bool × Bindings :=
  if b.has kind then (false, b) else (true, b.insert name kind)

theorem bind_of_has (h : Bindings.has b kind = true) : b.bind name kind = b := by
  simp [bind, h]

theorem tryBind_eq (b : Bindings) (name : Text) (kind : Kind) :
    b.tryBind name kind = (!b.has kind, b.bind name kind) := by
  cases h : b.has kind <;> simp [tryBind, bind, h]

/-- Only the kind of the given name changes. -/
theorem kindOf?_insert (b : Bindings) (name : Text) (kind : Kind) (other : Text) :
    (b.insert name kind).kindOf? other = if name = other then some kind else b.kindOf? other := by
  by_cases h : name = other
  · simp [kindOf?, insert, h]
  · have keep : ∀ e : Text × Kind, decide ((e.1 != name) = true ∧ (e.1 == other) = true) =
        (e.1 == other) := by
      intro e
      by_cases he : e.1 = other
      · simp [he, Ne.symm h]
      · simp [he]
    have miss : (name == other) = false := by simpa using h
    rw [if_neg h, kindOf?, kindOf?, insert, List.find?_cons, miss, List.find?_filter]
    simp only [keep]

end Bindings
end Descramble.Script

namespace Descramble.Script

/-- Binds the helpers of the statements, each tried once, until every kind of the table is
bound. -/
def classifyFrom (rules : List Rule) (script : Text) (tried : List Text) (b : Bindings) :
    List Text → Bindings
  | [] => b
  | s :: ss =>
    if b.covers (rules.map Rule.kind) then b
    else
      match calledHelper? s with
      | none => classifyFrom rules script tried b ss
      | some name =>
        if name ∈ tried then classifyFrom rules script tried b ss
        else
          match helperKind? rules script name with
          | none => classifyFrom rules script (name :: tried) b ss
          | some kind => classifyFrom rules script (name :: tried) (b.bind name kind) ss

theorem classifyFrom_cons (rules : List Rule) (script : Text) (tried : List Text) (b : Bindings)
    (s : Text) (ss : List Text) : classifyFrom rules script tried b (s :: ss) =
      if b.covers (rules.map Rule.kind) then b
      else
        match calledHelper? s with
        | none => classifyFrom rules script tried b ss
        | some name =>
          if name ∈ tried then classifyFrom rules script tried b ss
          else
            match helperKind? rules script name with
            | none => classifyFrom rules script (name :: tried) b ss
            | some kind => classifyFrom rules script (name :: tried) (b.bind name kind) ss := rfl

def classify (rules : List Rule) (script : Text) (statements : List Text) : Bindings :=
  classifyFrom rules script [] {} statements

end Descramble.Script
