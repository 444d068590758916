import Mathlib.Data.List.Dedup
import Descramble.Decipherer
import Descramble.Proofs.Decipherer.Cache

namespace Descramble.Decipherer

def Step.request? : Step → Option (Text × Text)
  | .program version script | .decipher version script _ => some (version, script)
  | .invalidate _ | .clear | .count => none

/-- What a request has to work with: the program kept for its version, else its own script's. -/
def fetched (kept : Option Program) (parsed : Except Fault Program) : Except Fault Program :=
  match kept with
  | some p => .ok p
  | none => parsed.mapError .shared

theorem fetched_eq_ok {kept : Option Program} {parsed : Except Fault Program} :
    fetched kept parsed = .ok p ↔ kept.or parsed.toOption = some p := by
  cases kept with
  | some q => simp [fetched]
  | none => cases parsed <;> simp [fetched, Except.toOption]

/-- A step of a run: the cache it meets, its answer, and the cache it leaves. -/
structure Event where
  step : Step
  met : Cache
  answer : Answer
  left : Cache

/-- A run during which nothing but its steps touches the cache. -/
def trace (d : Decipherer) : List Step → List Event
  | [] => []
  | s :: ss => ⟨s, d.cache, (d.step s).1, (d.step s).2.cache⟩ :: trace (d.step s).2 ss

/-- A run during which the cache may change between steps: `between` is told every cache left so
far, the latest first, and makes the one that the next step meets. -/
def traceAmid (between : List Cache → Cache) (past : List Cache) (d : Decipherer) :
    List Step → List Event
  | [] => []
  | s :: ss =>
    let met := between (d.cache :: past)
    let next := step { d with cache := met } s
    ⟨s, met, next.1, next.2.cache⟩ :: traceAmid between (d.cache :: past) next.2 ss

/-- A hit is a program that was stored for the version before. -/
def Recalls (between : List Cache → Cache) : Prop :=
  ∀ past, ∀ e ∈ (between past).entries, ∃ c ∈ past, e ∈ c.entries

def stored (past : List Cache) : List Text := past.flatMap Cache.versions

/-- The cache is a map as long as it was not given more versions than it may hold. -/
def Retains (capacity : Nat) (between : List Cache → Cache) : Prop :=
  ∀ c past, (stored (c :: past)).dedup.length ≤ capacity → between (c :: past) = c

/-- The parse that an event sets off; one that meets a program for its version sets off none. -/
def Event.parse? (parser : Parse) (e : Event) : Option (Except Fault Program) :=
  e.step.request?.bind fun r =>
    if (e.met.get? r.1).isSome then none else some (parser r.2)

/-- Without a kept program, a request only has its own script. -/
def Event.Plain (parser : Parse) (e : Event) : Prop :=
  (∀ version script, e.step = .program version script →
    e.answer = .program ((parser script).mapError .shared)) ∧
  ∀ version script signature, e.step = .decipher version script signature →
    e.answer = .deciphered ((parser script).mapError .shared >>= fun p => p.apply signature)

theorem trace_answers (d : Decipherer) (ss : List Step) :
    (d.trace ss).map Event.answer = d.run ss := by
  induction ss generalizing d with
  | nil => rfl
  | cons s ss ih => simp only [trace, run, List.map_cons, ih]

theorem traceAmid_steps (between : List Cache → Cache) (past : List Cache) (d : Decipherer)
    (ss : List Step) : (d.traceAmid between past ss).map Event.step = ss := by
  induction ss generalizing past d with
  | nil => rfl
  | cons s ss ih => simp only [traceAmid, List.map_cons, ih]

/-- The program of a version, and what is kept of it: a program is stored when the version has
none and the script has one. -/
theorem program_eq (d : Decipherer) (version script : Text) :
    d.program version script =
      (fetched (d.cache.get? version) (d.parser script),
        { d with cache := (d.cache.getOrInsert version (d.parser script)).2 }) := by
  cases hit : d.cache.get? version with
  | some p => simp only [program, Cache.getOrInsert, hit, fetched]
  | none =>
    cases made : d.parser script <;>
      simp only [program, Cache.getOrInsert, hit, made, fetched, mapError_ok, mapError_error]

theorem answer_program (d : Decipherer) (version script : Text) :
    (d.step (.program version script)).1 =
      .program (fetched (d.cache.get? version) (d.parser script)) := by
  simp only [step, program_eq]

theorem answer_decipher (d : Decipherer) (version script signature : Text) :
    (d.step (.decipher version script signature)).1 =
      .deciphered (fetched (d.cache.get? version) (d.parser script) >>= fun p =>
        p.apply signature) := by
  simp only [step, decipher, program_eq]

/-- Where nothing is found for a version that its script would not give, requests get by without a
cache. -/
theorem Event.plain_step {d : Decipherer} (met left : Cache)
    (h : ∀ version script, s.request? = some (version, script) →
      fetched (d.cache.get? version) (d.parser script) =
        (d.parser script).mapError .shared) :
    Event.Plain d.parser ⟨s, met, (d.step s).1, left⟩ := by
  constructor
  · rintro version script rfl
    rw [answer_program, h version script rfl]
  · rintro version script signature rfl
    rw [answer_decipher, h version script rfl]

/-- Both kinds of request treat the cache alike, whether or not the program applies. -/
theorem cache_request (d : Decipherer) (asks : Step.request? s = some (version, script)) :
    (d.step s).2.cache = (d.cache.getOrInsert version (d.parser script)).2 := by
  cases s <;> cases asks
  · simp only [step, program_eq]
  · simp only [step, decipher, program_eq]

/-- All that a step can do to the cache. -/
theorem cache_step (d : Decipherer) (s : Step) :
    (∃ version script, s.request? = some (version, script) ∧
      (d.step s).2.cache = (d.cache.getOrInsert version (d.parser script)).2) ∨
    (∃ version, s = .invalidate version ∧ (d.step s).2.cache = d.cache.erase version) ∨
    (s = .clear ∧ (d.step s).2.cache = d.cache.clear) ∨
    (s = .count ∧ (d.step s).2.cache = d.cache) := by
  cases s with
  | program version script => exact .inl ⟨version, script, rfl, cache_request d rfl⟩
  | decipher version script signature => exact .inl ⟨version, script, rfl, cache_request d rfl⟩
  | invalidate version => exact .inr (.inl ⟨version, rfl, rfl⟩)
  | clear => exact .inr (.inr (.inl ⟨rfl, rfl⟩))
  | count => exact .inr (.inr (.inr ⟨rfl, rfl⟩))

theorem parser_step (d : Decipherer) (s : Step) : (d.step s).2.parser = d.parser := by
  cases s <;> simp only [step, decipher, program_eq, invalidate, clear]

/-- A step stores nothing but the program that its own script encodes. -/
theorem mem_step (d : Decipherer) (s : Step) (h : e ∈ (d.step s).2.cache.entries) :
    e ∈ d.cache.entries ∨
      ∃ script, s.request? = some (e.1, script) ∧ d.parser script = .ok e.2 := by
  obtain ⟨version, script, asks, left⟩ | ⟨version, rfl, left⟩ | ⟨rfl, left⟩ | ⟨rfl, left⟩ :=
    d.cache_step s
  all_goals rw [left] at h
  · rcases Cache.mem_getOrInsert h with kept | ⟨rfl, made⟩
    · exact .inl kept
    · exact .inr ⟨script, asks, made⟩
  · exact .inl (List.mem_filter.mp h).1
  · cases h
  · exact .inl h

end Descramble.Decipherer
