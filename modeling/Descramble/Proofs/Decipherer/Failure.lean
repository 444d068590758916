import Mathlib.Logic.Function.Iterate
import Descramble.Proofs.Decipherer.Trace
import Descramble.Proofs.Program.Length
import Descramble.Proofs.Script.Engine

namespace Descramble

namespace Script.Parser

variable {engine : Engine} {extractor : Extractor} {p : Parser}

theorem read_error_flags
    (h : (p.read engine (engine.extractor p.extraction) script).result = .error fault) :
    fault.isParseFailure = true ∧ fault.isApplyFailure = false := by
  have raised : fault.OfScript := p.read_raises engine (fun _ usual => usual) script
    (fun name => engine.extractor_raises p.extraction name script) fault h
  exact ⟨raised.parse, raised.apply⟩

/-- A caller's own way to find bodies may raise what it likes, and that is passed on as it is. -/
theorem read_error_cases (h : (p.read engine extractor script).result = .error fault) :
    (fault.isParseFailure = true ∧ fault.isApplyFailure = false) ∨
      ∃ name, (extractor name script).result = .error fault := by
  have raised : (p.read engine extractor script).Raises fun fault =>
      fault.OfScript ∨ ∃ name, (extractor name script).result = .error fault :=
    p.read_raises engine (fun _ => .inl) script fun name _ failed => .inr ⟨name, failed⟩
  rcases raised fault h with usual | own
  · exact .inl ⟨usual.parse, usual.apply⟩
  · exact .inr own

end Script.Parser

theorem Program.apply_error_flags {p : Program} (h : p.apply s = .error fault) :
    (∃ index length, fault = .swapOutOfRange index length) ∧
      fault.isApplyFailure = true ∧ fault.isParseFailure = false := by
  obtain ⟨i, k, -, rfl⟩ := apply_error_iff.mp h
  exact ⟨⟨k, _, rfl⟩, rfl, rfl⟩

/-- Marking a fault as shared, once or several times, changes neither its class nor its message. -/
theorem Fault.shared_iterate (n : Nat) (fault : Fault) :
    (shared^[n] fault).isParseFailure = fault.isParseFailure ∧
      (shared^[n] fault).isApplyFailure = fault.isApplyFailure ∧
      (shared^[n] fault).message = fault.message := by
  induction n generalizing fault with
  | zero => exact ⟨rfl, rfl, rfl⟩
  | succ n ih =>
    rw [Function.iterate_succ_apply]
    exact ih (shared fault)

namespace Decipherer

open Script (Engine Extractor Parser)

def Answer.fault? : Answer → Option Fault
  | .program (.error fault) | .deciphered (.error fault) => some fault
  | .program (.ok _) | .deciphered (.ok _) | .done | .count _ => none

/-- How a request fails: nothing is kept of its version and its script has no program, or there is
a program, kept or just parsed, and it does not apply to the signature. -/
inductive Failure (parser : Parse) (met : Cache) : Step → Fault → Prop
  | unparsed (asks : s.request? = some (version, script)) (unkept : met.get? version = none)
    (failed : parser script = .error cause) : Failure parser met s (.shared cause)
  | unapplied (available : met.get? version = some p ∨
      met.get? version = none ∧ parser script = .ok p)
    (failed : p.apply signature = .error fault) :
    Failure parser met (.decipher version script signature) fault

/-- Only requests fail. -/
theorem Failure.asks {parser : Parse} (h : Failure parser met s fault) :
    s.request?.isSome = true := by
  cases h with
  | unparsed asks => simp [asks]
  | unapplied => rfl

theorem fetched_ok_iff {kept : Option Program} {parsed : Except Fault Program} :
    fetched kept parsed = .ok p ↔ kept = some p ∨ kept = none ∧ parsed = .ok p := by
  rw [fetched_eq_ok]
  cases kept <;> cases parsed <;> simp [Except.toOption]

theorem fetched_eq_error {kept : Option Program} {parsed : Except Fault Program} :
    fetched kept parsed = .error fault ↔
      kept = none ∧ ∃ cause, parsed = .error cause ∧ fault = .shared cause := by
  cases kept with
  | some q => simp [fetched]
  | none => cases parsed <;> simp [fetched, eq_comm]

theorem fault?_program {result : Except Fault Program} :
    (Answer.program result).fault? = some fault ↔ result = .error fault := by
  cases result <;> simp [Answer.fault?]

/-- Deciphering fails with the fault of the script, or else with that of the program. -/
theorem fault?_deciphered {found : Except Fault Program} :
    (Answer.deciphered (found >>= fun p => p.apply signature)).fault? = some fault ↔
      found = .error fault ∨ ∃ p : Program, found = .ok p ∧ p.apply signature = .error fault := by
  cases found with
  | error cause => simp [Answer.fault?, bind, Except.bind]
  | ok p =>
    cases applied : p.apply signature <;> simp [Answer.fault?, bind, Except.bind, applied]

/-- A step reports a fault exactly if it fails in one of the two ways. -/
theorem fault?_step (d : Decipherer) (s : Step) (fault : Fault) :
    (d.step s).1.fault? = some fault ↔ Failure d.parser d.cache s fault := by
  cases s with
  | program version script =>
    rw [answer_program, fault?_program, fetched_eq_error]
    constructor
    · intro failure
      obtain ⟨unkept, cause, failed, shared⟩ := failure
      exact shared ▸ .unparsed rfl unkept failed
    · intro failure
      cases failure with
      | unparsed asks unkept failed =>
        cases asks
        exact ⟨unkept, _, failed, rfl⟩
  | decipher version script signature =>
    rw [answer_decipher, fault?_deciphered, fetched_eq_error]
    simp only [fetched_ok_iff]
    constructor
    · intro failure
      obtain ⟨unkept, cause, failed, shared⟩ | ⟨p, available, failed⟩ := failure
      · exact shared ▸ .unparsed rfl unkept failed
      · exact .unapplied available failed
    · intro failure
      cases failure with
      | unparsed asks unkept failed =>
        cases asks
        exact .inl ⟨unkept, _, failed, rfl⟩
      | unapplied available failed => exact .inr ⟨_, available, failed⟩
  | invalidate _ | clear | count =>
    exact ⟨nofun, fun failure => absurd failure.asks Bool.false_ne_true⟩

/-- An event answers as its step does over the cache that it meets. -/
theorem traceAmid_answer {between : List Cache → Cache} {d : Decipherer}
    (he : e ∈ d.traceAmid between past ss) : e.answer = (step ⟨d.parser, e.met⟩ e.step).1 := by
  induction ss generalizing past d with
  | nil => cases he
  | cons s ss ih =>
    rw [traceAmid] at he
    obtain rfl | he := List.mem_cons.mp he
    · rfl
    · have later := ih he
      rwa [parser_step] at later

/-- A run during which nothing but its steps touches the cache is one of those with changes. -/
theorem traceAmid_untouched (past : List Cache) (d : Decipherer) (ss : List Step) :
    d.traceAmid (fun past => past.headD {}) past ss = d.trace ss := by
  induction ss generalizing past d with
  | nil => rfl
  | cons s ss ih => simp only [traceAmid, trace, List.headD_cons, ih]

/-- Every fault belongs either to a script or to a signature, and its class tells which. Scripts fail
in their own class whatever patterns cannot be built, except for what a caller's own way to find
bodies raises. In a run requests fail in two ways only, however scripts are parsed: a script that has
to be parsed and cannot be is reported as shared, and a program that does not apply is reported as it
is, whatever the cache remembers. -/
theorem faults_partition :
    (∀ (parser : Parser) (engine : Engine) script fault,
      (parser.read engine (engine.extractor parser.extraction) script).result = .error fault →
        fault.isParseFailure = true ∧ fault.isApplyFailure = false) ∧
    (∀ (parser : Parser) (engine : Engine) (extractor : Extractor) script fault,
      (parser.read engine extractor script).result = .error fault →
        (fault.isParseFailure = true ∧ fault.isApplyFailure = false) ∨
          ∃ name, (extractor name script).result = .error fault) ∧
    (∀ (p : Program) signature fault, p.apply signature = .error fault →
      (∃ index length, fault = .swapOutOfRange index length) ∧
        fault.isApplyFailure = true ∧ fault.isParseFailure = false) ∧
    (∀ (between : List Cache → Cache) (past : List Cache) (d : Decipherer) (steps : List Step),
      (d.traceAmid between past steps).map Event.step = steps ∧
      ∀ e ∈ d.traceAmid between past steps, ∀ fault,
        e.answer.fault? = some fault ↔ Failure d.parser e.met e.step fault) ∧
    (∀ (d : Decipherer) (steps : List Step),
      (d.traceAmid (fun past => past.headD {}) [] steps).map Event.answer = d.run steps) ∧
    ∀ n fault, (Fault.shared^[n] fault).isParseFailure = fault.isParseFailure ∧
      (Fault.shared^[n] fault).isApplyFailure = fault.isApplyFailure ∧
      (Fault.shared^[n] fault).message = fault.message := by
  refine ⟨?_, ?_, ?_, ?_, ?_, Fault.shared_iterate⟩
  · intro parser engine script fault failed
    exact Parser.read_error_flags failed
  · intro parser engine extractor script fault failed
    exact Parser.read_error_cases failed
  · intro p signature fault failed
    exact p.apply_error_flags failed
  · intro between past d steps
    refine ⟨traceAmid_steps .., ?_⟩
    intro e he fault
    rw [traceAmid_answer he]
    exact fault?_step ⟨d.parser, e.met⟩ e.step fault
  · intro d steps
    rw [traceAmid_untouched, trace_answers]

def sixth : Text :=
  "O={w:function(p,q){var t=p[0];p[0]=p[q];p[q]=t}};f=function(a){a;O.w(a,5);a};".toList ++
    "d.set('signature',f(c))".toList

/-- An engine with too little room for the pattern of any helper. -/
def cramped : Engine
  | .member _ => some (.tooLarge 10485760)
  | _ => none

/-- The same version is asked for with a script that has no program, with one that has, and then
for a signature that is too short. Without room for a pattern the script fails, too. -/
theorem faults_partition_sixth :
    let steps : List Step :=
      [.program ['v'] [], .program ['v'] sixth, .decipher ['v'] [] ['a', 'b']]
    let events := traceAmid (fun past => past.headD {}) [] {} steps
    events.map (fun e => e.answer.fault?) =
      [some (.shared (.entryNotFound Script.defaultKey)), none, some (.swapOutOfRange 5 2)] ∧
    (∀ e ∈ events, ∀ fault, e.answer.fault? = some fault →
      Failure ({} : Parser) e.met e.step fault) ∧
    (Fault.shared (.entryNotFound Script.defaultKey)).isParseFailure = true ∧
    (Parser.read {} cramped (cramped.extractor .firstBrace) sixth).result =
      .error (.badPattern (.tooLarge 10485760)) ∧
    (Fault.badPattern (.tooLarge 10485760)).isParseFailure = true := by
  intro steps events
  obtain ⟨scripts, -, -, runs, -, layers⟩ := faults_partition
  have missing : Parser.parse {} [] = .error (.entryNotFound Script.defaultKey) := rfl
  have refused : (Parser.read {} cramped (cramped.extractor .firstBrace) sixth).result =
      .error (.badPattern (.tooLarge 10485760)) := rfl
  refine ⟨rfl, ?_, ?_, refused, (scripts {} cramped sixth _ refused).1⟩
  · intro e he fault reported
    exact ((runs (fun past => past.headD {}) [] {} steps).2 e he fault).mp reported
  · exact (layers 1 (.entryNotFound Script.defaultKey)).1.trans
      (scripts {} Engine.standard [] _ missing).1

end Decipherer
end Descramble
