import Mathlib.Data.List.Duplicate
import Descramble.Script.OptionFile

namespace Descramble.Script.Options

inductive Field
  | key
  | extraction
  | policy
  deriving DecidableEq

inductive Choice
  | key (s : Text)
  | extraction (e : Extraction)
  | policy (p : Policy)

def Field.name : Field → Text
  | key => keyField
  | extraction => extractionField
  | policy => policyField

namespace Choice

def field : Choice → Field
  | key _ => .key
  | extraction _ => .extraction
  | policy _ => .policy

def text : Choice → Text
  | key s => s
  | extraction e => e.name
  | policy p => p.name

end Choice

def choice (o : Options) : Field → Choice
  | .key => .key o.key
  | .extraction => .extraction o.extraction
  | .policy => .policy o.policy

theorem field_choice (o : Options) (f : Field) : (o.choice f).field = f := by
  cases f <;> rfl

namespace Given

def choice? (g : Given) : Field → Option Choice
  | .key => g.key.map .key
  | .extraction => g.extraction.map .extraction
  | .policy => g.policy.map .policy

def add (g : Given) : Choice → Given
  | .key s => { g with key := some s }
  | .extraction e => { g with extraction := some e }
  | .policy p => { g with policy := some p }

theorem choice?_add (g : Given) (c : Choice) (f : Field) :
    (g.add c).choice? f = if f = c.field then some c else g.choice? f := by
  cases c <;> cases f <;> rfl

/-- Fields that are not given have their defaults. -/
theorem choice_options (g : Given) (f : Field) :
    g.options.choice f = (g.choice? f).getD (choice {} f) := by
  obtain ⟨key, extraction, policy⟩ := g
  cases f with
  | key => cases key <;> rfl
  | extraction => cases extraction <;> rfl
  | policy => cases policy <;> rfl

/-- Takes choices in their order, up to one for a field that has been given before. -/
def take (g : Given) : List Choice → Except Field Given
  | [] => .ok g
  | c :: cs => if (g.choice? c.field).isSome then .error c.field else (g.add c).take cs

variable {g g' : Given} {cs : List Choice}

/-- Choices for different fields are all taken. -/
theorem take_ok (fresh : ∀ c ∈ cs, g.choice? c.field = none)
    (once : (cs.map Choice.field).Nodup) :
    ∃ g', g.take cs = .ok g' ∧ (∀ c ∈ cs, g'.choice? c.field = some c) ∧
      ∀ f ∉ cs.map Choice.field, g'.choice? f = g.choice? f := by
  induction cs generalizing g with
  | nil => exact ⟨g, rfl, by simp, fun f _ => rfl⟩
  | cons c cs ih =>
    obtain ⟨here, fresh⟩ := List.forall_mem_cons.mp fresh
    obtain ⟨other, once⟩ := List.nodup_cons.mp once
    have fresh' : ∀ d ∈ cs, (g.add c).choice? d.field = none := by
      intro d hd
      have apart : d.field ≠ c.field := fun same => other (same ▸ List.mem_map_of_mem hd)
      rw [choice?_add, if_neg apart, fresh d hd]
    obtain ⟨g', taken, kept, rest⟩ := ih fresh' once
    refine ⟨g', by simp [take, here, taken], List.forall_mem_cons.mpr ⟨?_, kept⟩, ?_⟩
    · rw [rest c.field other, choice?_add, if_pos rfl]
    · intro f hf
      rw [List.map_cons, List.mem_cons, not_or] at hf
      rw [rest f hf.2, choice?_add, if_neg hf.1]

/-- A field at which the choices end is there twice, or has been given before. -/
theorem take_error (h : g.take cs = .error f) :
    List.Duplicate f (cs.map Choice.field) ∨
      (g.choice? f).isSome ∧ f ∈ cs.map Choice.field := by
  induction cs generalizing g with
  | nil => cases h
  | cons c cs ih =>
    rw [take] at h
    split at h
    · next before =>
      obtain rfl := Except.error.inj h
      exact .inr ⟨before, List.mem_cons_self⟩
    · obtain twice | ⟨before, later⟩ := ih h
      · exact .inl (twice.duplicate_cons c.field)
      · rw [choice?_add] at before
        split at before
        · next same =>
          subst same
          exact .inl later.duplicate_cons_self
        · exact .inr ⟨before, List.mem_cons_of_mem _ later⟩

/-- Choices that are all taken are for different fields. -/
theorem fresh_of_take (h : g.take cs = .ok g') :
    (cs.map Choice.field).Nodup ∧ ∀ c ∈ cs, g.choice? c.field = none := by
  induction cs generalizing g with
  | nil => exact ⟨List.nodup_nil, by simp⟩
  | cons c cs ih =>
    rw [take] at h
    split at h
    · cases h
    · next here =>
      obtain ⟨once, fresh⟩ := ih h
      have apart : ∀ d ∈ cs, d.field ≠ c.field := by
        intro d hd same
        have fresh := fresh d hd
        rw [choice?_add, if_pos same] at fresh
        cases fresh
      refine ⟨List.nodup_cons.mpr ⟨?_, once⟩, List.forall_mem_cons.mpr ⟨by simpa using here, ?_⟩⟩
      · intro again
        obtain ⟨d, hd, same⟩ := List.mem_map.mp again
        exact apart d hd same
      · intro d hd
        have fresh := fresh d hd
        rwa [choice?_add, if_neg (apart d hd)] at fresh

/-- Choices for different fields are all taken, and nothing else is given then. -/
theorem take_nodup (once : (cs.map Choice.field).Nodup) :
    ∃ g, take {} cs = .ok g ∧ (∀ c ∈ cs, g.choice? c.field = some c) ∧
      ∀ f ∉ cs.map Choice.field, g.choice? f = none := by
  have fresh : ∀ f, choice? {} f = none := by
    intro f
    cases f <;> rfl
  obtain ⟨g, taken, kept, rest⟩ := take_ok (fun c _ => fresh c.field) once
  exact ⟨g, taken, kept, fun f hf => (rest f hf).trans (fresh f)⟩

/-- Two choices for one field are not taken. -/
theorem take_not_nodup (twice : ¬ (cs.map Choice.field).Nodup) :
    ∃ f, take {} cs = .error f ∧ List.Duplicate f (cs.map Choice.field) := by
  cases taken : take {} cs with
  | ok g => exact absurd (fresh_of_take taken).1 twice
  | error f =>
    obtain again | ⟨before, -⟩ := take_error taken
    · exact ⟨f, rfl, again⟩
    · cases f <;> cases before

end Given
end Descramble.Script.Options
