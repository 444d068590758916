import Descramble.Proofs.CommandLine.Results
import Descramble.Proofs.Decipherer.Trace

namespace Descramble.CommandLine

open Script

variable {files : Files} {a : Arguments} {version : Text} {p : Program}

/-- Options, script and version load, and the script parses. -/
inductive Loaded (files : Files) (a : Arguments) (version : Text) (p : Program) : Prop
  | intro (options : loadOptions files a = .ok o)
    (script : readText files "Failed to read player script ".toList a.script = .ok s)
    (version : (findVersion files a s).result = .ok version)
    (program : Parser.parse { toOptions := o } s = .ok p)

/-- The cache of a run has no program yet, whatever it keeps. -/
theorem program_fresh (parser : Parser) (limits : Limits) (version script : Text) :
    (Decipherer.program { parser, cache := .ofLimits limits } version script).1 =
      (parser.parse script).mapError .shared := by
  rw [Decipherer.program_eq]
  rfl

/-- What is loaded does not depend on the cache, which is empty when the script is asked for. -/
theorem load_eq_ok_iff : (load files a o).result = .ok (version, p) ↔
    ∃ s, readText files "Failed to read player script ".toList a.script = .ok s ∧
      (findVersion files a s).result = .ok version ∧ Parser.parse { toOptions := o } s = .ok p := by
  have parsed : ∀ v s q log, (load.parsed a log (Decipherer.program
      { parser := Parser.parse { toOptions := o }, cache := .ofLimits a.limits } v s).1).result =
        .ok q ↔ Parser.parse { toOptions := o } s = .ok q := by
    intro v s q log
    rw [load.parsed, mapError_eq_ok, program_fresh, mapError_eq_ok]
  simp only [load, Logged.result_bind_eq_ok, Logged.result_liftM, Logged.result_tell,
    Logged.result_pure, Logged.pure_eq_ok, parsed]
  simp

theorem run_eq (files : Files) (a : Arguments) :
    run files a = (match (prepare files a).result with
      | .error outcome => outcome
      | .ok (version, p) => answer a version p).logged (a.opening :: (prepare files a).log) := rfl

/-- A run gets as far as deciphering exactly if all that it needs loads. -/
theorem prepare_eq_ok_iff (accepted : a.limits.areAccepted = true) :
    (prepare files a).result = .ok (version, p) ↔ Loaded files a version p := by
  simp only [prepare, Logged.result_bind_eq_ok, accepted, if_true, Logged.result_mapError,
    Logged.result_ofExcept, mapError_eq_ok, load_eq_ok_iff]
  constructor
  · rintro ⟨o, options, -, -, s, script, found, program⟩
    exact ⟨options, script, found, program⟩
  · rintro ⟨options, script, found, program⟩
    exact ⟨_, options, (), rfl, _, script, found, program⟩

/-- A run that ends before it can decipher has written nothing but why. -/
theorem prepare_error (h : (prepare files a).result = .error outcome) :
    (∃ message, outcome = .failed [] [] message) ∨
      a.limits.areAccepted = false ∧ outcome = { ending := .abort Limits.refusal } := by
  simp only [prepare, Logged.result_bind_eq_error, Logged.result_mapError, Logged.result_ofExcept,
    mapError_eq_error] at h
  obtain ⟨message, -, rfl⟩ | ⟨o, -, told | ⟨-, -, ended⟩⟩ := h
  · exact .inl ⟨message, rfl⟩
  · cases told
  · split at ended
    · rw [Logged.result_mapError, mapError_eq_error] at ended
      obtain ⟨message, -, rfl⟩ := ended
      exact .inl ⟨message, rfl⟩
    next refused =>
      cases ended
      exact .inr ⟨by simpa using refused, rfl⟩

theorem run_loaded (accepted : a.limits.areAccepted = true) (h : Loaded files a version p) :
    run files a = (answer a version p).logged (a.opening :: (prepare files a).log) := by
  rw [run_eq, (prepare_eq_ok_iff accepted).mpr h]

/-- A run that does not load leaves one message, behind its log. -/
theorem run_unloaded (accepted : a.limits.areAccepted = true)
    (h : ∀ version p, ¬ Loaded files a version p) :
    ∃ message, run files a =
      (Outcome.failed [] [] message).logged (a.opening :: (prepare files a).log) := by
  cases prepared : (prepare files a).result with
  | error outcome =>
    rw [run_eq, prepared]
    rcases prepare_error prepared with ⟨message, rfl⟩ | ⟨refused, -⟩
    · exact ⟨message, rfl⟩
    · rw [accepted] at refused
      cases refused
  | ok r => exact absurd ((prepare_eq_ok_iff accepted).mp prepared) (h r.1 r.2)

section

variable (a : Arguments) (version : Text) (p : Program)

theorem answer_ending : (answer a version p).ending =
    if (resultsOf a p a.signatures).2 = none then .success else .failure := by
  unfold answer
  rcases resultsOf a p a.signatures with ⟨rs, _ | message⟩
  · cases json : a.json <;> rfl
  · rfl

/-- A report is written once all signatures have a result. -/
theorem answer_lines_report (json : a.json = true) : (answer a version p).lines =
    if (resultsOf a p a.signatures).2 = none then
      [.report ⟨version, p, (resultsOf a p a.signatures).1⟩]
    else [] := by
  unfold answer
  rcases resultsOf a p a.signatures with ⟨rs, _ | message⟩ <;> simp [Outcome.failed, json]

/-- The lines of an answer that is not a report. -/
theorem answer_lines (json : a.json = false) : (answer a version p).lines =
    programLines a version p ++
      ((resultsOf a p a.signatures).1.flatMap (Result.lines a.verbosity) ++
        if (resultsOf a p a.signatures).2 = none ∧ a.verbosity = .verbose then
          [.summary (resultsOf a p a.signatures).1.length]
        else []) := by
  unfold answer
  rcases resultsOf a p a.signatures with ⟨rs, _ | message⟩ <;> simp [Outcome.failed, json]

theorem payloads_answer (json : a.json = false) : payloads (answer a version p).lines =
    (resultsOf a p a.signatures).1.map Result.payload := by
  have last : ∀ (shown : Prop) [Decidable shown] (n : Nat),
      payloads (if shown then [.summary n] else []) = [] := by
    intro shown _ n
    split <;> rfl
  rw [answer_lines a version p json, payloads_append, payloads_append, payloads_programLines,
    payloads_results, last, List.append_nil, List.nil_append]

end

section

variable (accepted : a.limits.areAccepted = true)
include accepted

/-- A run whose limits are accepted ends in one of two ways. -/
theorem run_status_cases :
    (run files a).ending.status = 0 ∨ (run files a).ending.status = 1 := by
  by_cases loads : ∃ version p, Loaded files a version p
  · obtain ⟨version, p, loaded⟩ := loads
    rw [run_loaded accepted loaded, Outcome.ending_logged, answer_ending]
    split
    · exact .inl rfl
    · exact .inr rfl
  · obtain ⟨message, failed⟩ :=
      run_unloaded accepted fun version p loaded => loads ⟨version, p, loaded⟩
    exact .inr (failed ▸ rfl)

theorem run_status_of_loaded (h : Loaded files a version p) :
    (run files a).ending.status = 0 ↔ (resultsOf a p a.signatures).2 = none := by
  rw [run_loaded accepted h, Outcome.ending_logged, answer_ending]
  split
  · next complete => simp [complete, Ending.status]
  · next broken => simp [broken, Ending.status]

/-- No run succeeds without a version and a program. -/
theorem exists_loaded (h : (run files a).ending.status = 0) :
    ∃ version p, Loaded files a version p := by
  by_contra unloaded
  obtain ⟨message, failed⟩ :=
    run_unloaded accepted fun version p loaded => unloaded ⟨version, p, loaded⟩
  rw [failed] at h
  cases h

theorem run_status_eq_zero_iff : (run files a).ending.status = 0 ↔
    ∃ version p, Loaded files a version p ∧ ∀ s ∈ a.signatures, ¬ Fails a p s := by
  constructor
  · intro success
    obtain ⟨version, p, loaded⟩ := exists_loaded accepted success
    have complete := (run_status_of_loaded accepted loaded).mp success
    exact ⟨version, p, loaded, resultsOf_complete_iff.mp complete⟩
  · rintro ⟨version, p, loaded, sound⟩
    exact (run_status_of_loaded accepted loaded).mpr (resultsOf_complete_iff.mpr sound)

theorem run_report (json : a.json = true) (success : (run files a).ending.status = 0) :
    ∃ version p rs, Loaded files a version p ∧ List.Forall₂ (Yields a p) a.signatures rs ∧
      (run files a).lines = [.report ⟨version, p, rs⟩] := by
  obtain ⟨version, p, loaded⟩ := exists_loaded accepted success
  have complete := (run_status_of_loaded accepted loaded).mp success
  refine ⟨version, p, _, loaded, resultsOf_complete complete, ?_⟩
  rw [run_loaded accepted loaded, Outcome.lines_logged, answer_lines_report a version p json,
    if_pos complete]

/-- A report is written whole or not at all. -/
theorem run_no_report (json : a.json = true) (failure : (run files a).ending.status = 1) :
    (run files a).lines = [] := by
  by_cases loads : ∃ version p, Loaded files a version p
  · obtain ⟨version, p, loaded⟩ := loads
    have broken : (resultsOf a p a.signatures).2 ≠ none := by
      rw [Ne, ← run_status_of_loaded accepted loaded, failure]
      exact Nat.one_ne_zero
    rw [run_loaded accepted loaded, Outcome.lines_logged, answer_lines_report a version p json,
      if_neg broken]
  · obtain ⟨message, failed⟩ :=
      run_unloaded accepted fun version p loaded => loads ⟨version, p, loaded⟩
    rw [failed]
    rfl

theorem run_payloads (json : a.json = false) (h : Loaded files a version p) :
    ∃ done rest rs, a.signatures = done ++ rest ∧ List.Forall₂ (Yields a p) done rs ∧
      (∀ s ∈ rest.head?, Fails a p s) ∧ payloads (run files a).lines = rs.map Result.payload := by
  obtain ⟨done, rest, split, results, -, fails⟩ := resultsOf_split a p a.signatures
  refine ⟨done, rest, _, split, results, fails, ?_⟩
  rw [run_loaded accepted h, Outcome.lines_logged, payloads_answer a version p json]

end

/-- What a run writes is what its signatures yield. Its status is 0 exactly if everything loads and
no signature fails. A report is written in that case only, and has a result for each signature;
without a report the results in front of the first failure are written. -/
theorem run_writes_results (files : Files) (a : Arguments)
    (accepted : a.limits.areAccepted = true) :
    ((run files a).ending.status = 0 ∨ (run files a).ending.status = 1) ∧
    ((run files a).ending.status = 0 ↔
      ∃ version p, Loaded files a version p ∧ ∀ s ∈ a.signatures, ¬ Fails a p s) ∧
    (a.json = true →
      ((run files a).ending.status = 0 → ∃ version p rs, Loaded files a version p ∧
        List.Forall₂ (Yields a p) a.signatures rs ∧
        (run files a).lines = [.report ⟨version, p, rs⟩]) ∧
      ((run files a).ending.status = 1 → (run files a).lines = [])) ∧
    (a.json = false →
      (∀ version p, Loaded files a version p → ∃ done rest rs, a.signatures = done ++ rest ∧
        List.Forall₂ (Yields a p) done rs ∧ (∀ s ∈ rest.head?, Fails a p s) ∧
        payloads (run files a).lines = rs.map Result.payload) ∧
      ((∀ version p, ¬ Loaded files a version p) → payloads (run files a).lines = [])) := by
  refine ⟨run_status_cases accepted, run_status_eq_zero_iff accepted, ?_, ?_⟩
  · intro json
    exact ⟨run_report accepted json, run_no_report accepted json⟩
  · intro json
    refine ⟨fun version p loaded => run_payloads accepted json loaded, ?_⟩
    intro unloaded
    obtain ⟨message, failed⟩ := run_unloaded accepted unloaded
    rw [failed]
    rfl

def exchangingFiles : Files := fun path =>
  if path = ['s'] then
    .ok (Text.utf8
      ("O=\x7bw:function(p,q)\x7bvar t=p[0];p[0]=p[q%p.length];p[q%p.length]=t\x7d\x7d;".toList ++
      "f=function(a)\x7ba;O.w(a,1);a\x7d;d.set('signature',f(c));".toList))
  else .error .missing

def shortSecond : Arguments where
  script := ['s']
  signatures := [['A', 'B'], ['C'], ['D', 'E']]
  playerVersion := some ['v']
  json := true

theorem run_writes_results_shortSecond :
    shortSecond.limits.areAccepted = true ∧
    (run exchangingFiles shortSecond).ending.status = 1 ∧
    (run exchangingFiles shortSecond).lines = [] := by
  have accepted : shortSecond.limits.areAccepted = true := rfl
  have failure : (run exchangingFiles shortSecond).ending.status = 1 := by decide +kernel
  obtain ⟨-, -, report, -⟩ := run_writes_results exchangingFiles shortSecond accepted
  exact ⟨accepted, failure, (report rfl).2 failure⟩

end Descramble.CommandLine
