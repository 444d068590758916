import Mathlib.Data.List.Forall2
import Descramble.CommandLine.Run

namespace Descramble.CommandLine

variable {a : Arguments} {p : Program}

def Result.payload (r : Result) : Text := r.url.getD r.deciphered

def Line.payload? : Line → Option Text
  | .payload s => some s
  | _ => none

def payloads (lines : List Line) : List Text := lines.filterMap Line.payload?

/-- The result is that of the signature: it holds what the program makes of it and, if a stream is
given, the stream's address with that in its query. -/
structure Yields (a : Arguments) (p : Program) (s : Text) (r : Result) : Prop where
  signature : r.signature = s
  deciphered : p.apply s = .ok r.deciphered
  url : Option.Rel (fun stream answer =>
    applySignature stream a.parameter r.deciphered = .ok answer) a.url r.url

/-- The program cannot decipher the signature, or the stream cannot take what it makes of it. -/
inductive Fails (a : Arguments) (p : Program) (s : Text) : Prop
  | undeciphered (refused : p.apply s = .error fault)
  | unplaced (stream : a.url = some url) (deciphered : p.apply s = .ok t)
    (refused : applySignature url a.parameter t = .error fault)

theorem resultOf_eq_ok_iff : resultOf a p s = .ok r ↔ Yields a p s r := by
  constructor
  · intro h
    unfold resultOf at h
    split at h
    · cases h
    next deciphered applied =>
      split at h
      · next stream =>
        cases h
        exact ⟨rfl, applied, by rw [stream]; exact .none⟩
      next url stream =>
        split at h
        · next answer placed =>
          cases h
          exact ⟨rfl, applied, by rw [stream]; exact .some placed⟩
        · cases h
  · rintro ⟨rfl, applied, url⟩
    rw [resultOf, applied]
    generalize given : a.url = stream, held : r.url = answer at url
    cases url with
    | none => simp only [← held]
    | some placed => simp only [placed, ← held]

theorem resultOf_eq_error_iff : (∃ message, resultOf a p s = .error message) ↔ Fails a p s := by
  constructor
  · rintro ⟨message, h⟩
    unfold resultOf at h
    split at h
    · next refused => exact .undeciphered refused
    next applied =>
      split at h
      · cases h
      next stream =>
        split at h
        · cases h
        · next refused => exact .unplaced stream applied refused
  · rintro (refused | ⟨stream, applied, refused⟩)
    · simp only [resultOf, refused, Except.error.injEq, exists_eq']
    · simp only [resultOf, applied, stream, refused, Except.error.injEq, exists_eq']

/-- The results are those of the signatures in front of the first one that fails. -/
theorem resultsOf_split (a : Arguments) (p : Program) (ss : List Text) :
    ∃ done rest, ss = done ++ rest ∧ List.Forall₂ (Yields a p) done (resultsOf a p ss).1 ∧
      ((resultsOf a p ss).2 = none ↔ rest = []) ∧ ∀ s ∈ rest.head?, Fails a p s := by
  induction ss with
  | nil => exact ⟨[], [], rfl, .nil, by simp [resultsOf], by simp⟩
  | cons s ss ih =>
    cases first : resultOf a p s with
    | error message =>
      have fails : Fails a p s := resultOf_eq_error_iff.mp ⟨message, first⟩
      exact ⟨[], s :: ss, rfl, by simp [resultsOf, first], by simp [resultsOf, first],
        by simpa using fails⟩
    | ok r =>
      obtain ⟨done, rest, split, results, failure, fails⟩ := ih
      refine ⟨s :: done, rest, by rw [split]; rfl, ?_, ?_, fails⟩
      · simp only [resultsOf, first]
        exact .cons (resultOf_eq_ok_iff.mp first) results
      · simp only [resultsOf, first]
        exact failure

theorem Yields.not_fails (h : Yields a p s r) : ¬ Fails a p s := by
  intro fails
  obtain ⟨message, failed⟩ := resultOf_eq_error_iff.mpr fails
  rw [resultOf_eq_ok_iff.mpr h] at failed
  cases failed

theorem not_fails_of_results (h : List.Forall₂ (Yields a p) ss rs) : ∀ s ∈ ss, ¬ Fails a p s := by
  induction h with
  | nil => simp
  | cons first _ ih => exact List.forall_mem_cons.mpr ⟨first.not_fails, ih⟩

theorem resultsOf_complete (h : (resultsOf a p ss).2 = none) :
    List.Forall₂ (Yields a p) ss (resultsOf a p ss).1 := by
  obtain ⟨done, rest, split, results, failure, -⟩ := resultsOf_split a p ss
  rw [failure.mp h, List.append_nil] at split
  exact split ▸ results

/-- The results are complete exactly if no signature fails. -/
theorem resultsOf_complete_iff : (resultsOf a p ss).2 = none ↔ ∀ s ∈ ss, ¬ Fails a p s := by
  constructor
  · intro complete
    exact not_fails_of_results (resultsOf_complete complete)
  · intro sound
    obtain ⟨done, rest, split, -, failure, fails⟩ := resultsOf_split a p ss
    rw [failure]
    cases rest with
    | nil => rfl
    | cons s rest => exact absurd (fails s rfl) (sound s (by simp [split]))

theorem payloads_append (ls ls' : List Line) : payloads (ls ++ ls') = payloads ls ++ payloads ls' :=
  List.filterMap_append

theorem payloads_results (v : Verbosity) (rs : List Result) :
    payloads (rs.flatMap (Result.lines v)) = rs.map Result.payload := by
  induction rs with
  | nil => rfl
  | cons r rs ih =>
    have one : payloads (r.lines v) = [r.payload] := by
      unfold Result.lines
      split <;> rfl
    rw [List.flatMap_cons, payloads_append, one, ih]
    rfl

theorem payloads_programLines (a : Arguments) (version : Text) (p : Program) :
    payloads (programLines a version p) = [] := by
  unfold programLines
  split <;> rfl

end Descramble.CommandLine
