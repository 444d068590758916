import Descramble.Proofs.Decipherer.Trace
import Descramble.Proofs.Program.Length
import Descramble.Proofs.Script.Policy

namespace Descramble

/-- A fault of a script is not yet marked as one that several callers are told. -/
theorem Script.Parser.parse_error_unshared {p : Parser} (h : p.parse script = .error fault)
    (inner : Fault) : fault ≠ .shared inner := by
  rintro rfl
  rcases p.parse_error h with (missing | ⟨name, missing⟩) | ⟨b, s, refused⟩
  · cases missing
  · cases missing
  · cases refused

theorem Program.apply_error_unshared {p : Program} (h : p.apply s = .error fault) (inner : Fault) :
    fault ≠ .shared inner := by
  rintro rfl
  obtain ⟨i, k, -, overrun⟩ := apply_error_iff.mp h
  cases overrun

namespace Decipherer

open Script (Parser)

/-- The step brings along the script of the version it names. -/
def Step.Assigned (scripts : Text → Text) (s : Step) : Prop :=
  ∀ version script, s.request? = some (version, script) → script = scripts version

/-- Every program that is kept is the one that its version's script encodes. -/
def Truthful (parser : Parse) (scripts : Text → Text) (c : Cache) : Prop :=
  ∀ e ∈ c.entries, parser (scripts e.1) = .ok e.2

variable {parser : Parse} {scripts : Text → Text} {between : List Cache → Cache}

/-- A step stores no other program than the one that its version's script encodes. -/
theorem Truthful.step {d : Decipherer} (h : Truthful d.parser scripts d.cache)
    (assigned : Step.Assigned scripts s) : Truthful d.parser scripts (d.step s).2.cache := by
  intro e he
  rcases mem_step d s he with kept | ⟨script, asks, made⟩
  · exact h e kept
  · rw [← assigned e.1 script asks]
    exact made

/-- A program that is found is the one that the script would have given. -/
theorem Truthful.fetched_eq {c : Cache} (h : Truthful parser scripts c) (version : Text) :
    fetched (c.get? version) (parser (scripts version)) =
      (parser (scripts version)).mapError .shared := by
  cases hit : c.get? version with
  | none => rfl
  | some p =>
    have same := h (version, p) (Cache.mem_of_get? hit)
    simp only [fetched, same, mapError_ok]

theorem Truthful.plain {d : Decipherer} (h : Truthful d.parser scripts d.cache)
    (assigned : Step.Assigned scripts s) (met left : Cache) :
    Event.Plain d.parser ⟨s, met, (d.step s).1, left⟩ := by
  apply Event.plain_step
  intro version script asks
  rw [assigned version script asks, h.fetched_eq]

/-- A cache that forgets, and recalls only what was stored, gives the answers of none at all. -/
theorem traceAmid_plain (recalls : Recalls between) {d : Decipherer} {past : List Cache}
    (truthful : ∀ c ∈ d.cache :: past, Truthful d.parser scripts c)
    (assigned : ∀ s ∈ ss, Step.Assigned scripts s) :
    ∀ e ∈ d.traceAmid between past ss, e.Plain d.parser := by
  induction ss generalizing d past with
  | nil => simp [traceAmid]
  | cons s ss ih =>
    have met : Truthful d.parser scripts (between (d.cache :: past)) := by
      intro e he
      obtain ⟨c, hc, kept⟩ := recalls _ e he
      exact truthful c hc e kept
    have here := assigned s List.mem_cons_self
    let now : Decipherer := { d with cache := between (d.cache :: past) }
    have same : (now.step s).2.parser = d.parser := parser_step now s
    have next : ∀ c ∈ (now.step s).2.cache :: d.cache :: past,
        Truthful (now.step s).2.parser scripts c := by
      rw [same]
      intro c hc
      rcases List.mem_cons.mp hc with rfl | hc
      · exact Truthful.step (d := now) met here
      · exact truthful c hc
    intro e he
    rcases List.mem_cons.mp he with rfl | he
    · exact Truthful.plain (d := now) met here _ _
    · rw [← same]
      exact ih next (fun t ht => assigned t (List.mem_cons_of_mem s ht)) e he

/-- If every version has one script, nobody can tell that programs are kept, nor when they are
forgotten: each request is answered as its own script and the program in it demand. A fault of the
script is marked as shared once, and a fault of the program not at all. -/
theorem traceAmid_transparent (parser : Parser) (limits : Limits) (scripts : Text → Text)
    (between : List Cache → Cache) (recalls : Recalls between) (steps : List Step)
    (assigned : ∀ s ∈ steps, Step.Assigned scripts s) :
    let events := traceAmid between [] { parser, cache := .ofLimits limits } steps
    events.map Event.step = steps ∧ (∀ e ∈ events, e.Plain parser) ∧
    (∀ script inner, parser.parse script ≠ .error (.shared inner)) ∧
    ∀ (p : Program) signature inner, p.apply signature ≠ .error (.shared inner) := by
  have start : ∀ c ∈ [Cache.ofLimits limits], Truthful parser scripts c := by
    intro c hc
    rw [List.mem_singleton] at hc
    subst hc
    intro e he
    cases he
  refine ⟨traceAmid_steps .., traceAmid_plain recalls start assigned, ?_, ?_⟩
  · intro script inner h
    exact parser.parse_error_unshared h inner rfl
  · intro p signature inner h
    exact p.apply_error_unshared h inner rfl

/-- A cache that forgets everything before every second step. -/
theorem traceAmid_transparent_forgetful :
    let between : List Cache → Cache := fun past =>
      if past.length % 2 = 0 then {} else past.headD {}
    let scripts : Text → Text := fun version => if version = ['v'] then
        "O={r:function(p){p.reverse()}};f=function(a){a;O.r(a);a};d.set('signature',f(c))".toList
      else []
    let steps : List Step :=
      [.program ['v'] (scripts ['v']), .decipher ['v'] (scripts ['v']) ['a', 'b'], .count,
        .decipher ['w'] (scripts ['w']) ['a', 'b']]
    Recalls between ∧ (∀ s ∈ steps, Step.Assigned scripts s) ∧
    ∀ e ∈ traceAmid between [] {} steps, e.Plain ({} : Parser) := by
  intro between scripts steps
  have recalls : Recalls between := by
    intro past e he
    simp only [between] at he
    split at he
    · cases he
    · cases past with
      | nil => cases he
      | cons c past => exact ⟨c, List.mem_cons_self, he⟩
  have assigned : ∀ s ∈ steps, Step.Assigned scripts s := by
    intro s hs version script asks
    simp only [steps, List.mem_cons, List.not_mem_nil, or_false] at hs
    rcases hs with rfl | rfl | rfl | rfl <;> cases asks <;> rfl
  exact ⟨recalls, assigned,
    (traceAmid_transparent {} {} scripts between recalls steps assigned).2.1⟩

end Decipherer
end Descramble
