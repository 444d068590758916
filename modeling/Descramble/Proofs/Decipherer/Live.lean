import Mathlib.Data.List.DropRight
import Descramble.Proofs.Decipherer.Trace

namespace Descramble.Decipherer

def Step.drops (version : Text) : Step → Bool
  | .invalidate other => other == version
  | .clear => true
  | .program .. | .decipher .. | .count => false

def Step.parsed? (parser : Parse) (version : Text) (s : Step) : Option Program :=
  match s.request? with
  | some (other, script) => if other = version then (parser script).toOption else none
  | none => none

def since (version : Text) (past : List Step) : List Step := past.rtakeWhile (!·.drops version)

/-- The program of the earliest step for the version that could be parsed since the version was
dropped last. -/
def live? (parser : Parse) (past : List Step) (version : Text) : Option Program :=
  (since version past).findSome? (Step.parsed? parser version)

/-- One step more may end the life of a program, or begin it if none is live. -/
theorem live?_append (parser : Parse) (past : List Step) (s : Step) (version : Text) :
    live? parser (past ++ [s]) version =
      if s.drops version then none
      else (live? parser past version).or (s.parsed? parser version) := by
  rw [live?, since, List.rtakeWhile_concat]
  cases s.drops version with
  | true => rfl
  | false => simp [live?, since, List.findSome?_append]

theorem Step.drops_request {s : Step} (asks : s.request? = some r) (version : Text) :
    s.drops version = false := by
  cases s <;> first | rfl | cases asks

/-- One step in terms of what the cache answers. -/
theorem get?_step {d : Decipherer} (h : d.cache.keeps = true) (s : Step) (version : Text) :
    (d.step s).2.cache.get? version =
      if s.drops version then none
      else (d.cache.get? version).or (s.parsed? d.parser version) := by
  obtain ⟨other, script, asks, left⟩ | ⟨other, rfl, left⟩ | ⟨rfl, left⟩ | ⟨rfl, left⟩ :=
    d.cache_step s
  all_goals rw [left]
  · rw [Cache.get?_getOrInsert h, Step.drops_request asks]
    by_cases same : other = version
    · subst same
      simp [Step.parsed?, asks]
    · simp [Step.parsed?, asks, same]
  · simp [Cache.get?_erase, Step.drops, Step.parsed?, Step.request?]
  · rfl
  · simp [Step.drops, Step.parsed?, Step.request?]

theorem keeps_step (d : Decipherer) (s : Step) : (d.step s).2.cache.keeps = d.cache.keeps := by
  obtain ⟨version, script, asks, left⟩ | ⟨version, rfl, left⟩ | ⟨rfl, left⟩ | ⟨rfl, left⟩ :=
    d.cache_step s
  all_goals rw [left]
  · exact Cache.keeps_getOrInsert ..
  · rfl
  · rfl

theorem nodup_step {d : Decipherer} (h : d.cache.versions.Nodup) (s : Step) :
    (d.step s).2.cache.versions.Nodup := by
  obtain ⟨version, script, asks, left⟩ | ⟨version, rfl, left⟩ | ⟨rfl, left⟩ | ⟨rfl, left⟩ :=
    d.cache_step s
  all_goals rw [left]
  · exact Cache.nodup_getOrInsert h ..
  · exact Cache.nodup_erase h version
  · exact List.nodup_nil
  · exact h

/-- What the cache holds between two steps is decided by the steps so far: the programs that are
still live. -/
structure Records (parser : Parse) (past : List Step) (c : Cache) : Prop where
  keeps : c.keeps = true
  versions : c.versions.Nodup
  get? : ∀ version, c.get? version = live? parser past version

theorem Records.start (parser : Parse) {limits : Limits} (h : limits.keep = true) :
    Records parser [] (.ofLimits limits) :=
  ⟨h, List.nodup_nil, fun _ => rfl⟩

/-- A step keeps the cache in agreement with the steps so far. -/
theorem Records.step {d : Decipherer} (h : Records d.parser past d.cache) (s : Step) :
    Records d.parser (past ++ [s]) (d.step s).2.cache := by
  refine ⟨?_, nodup_step h.versions s, ?_⟩
  · rw [keeps_step]
    exact h.keeps
  · intro version
    rw [get?_step h.keeps, live?_append, h.get?]

/-- An event does what its step does to the cache that it meets. -/
theorem trace_event {d : Decipherer} (h : Records d.parser past d.cache)
    (split : d.trace ss = before ++ e :: behind) :
    Records d.parser (past ++ before.map Event.step) e.met ∧
      e.answer = (step ⟨d.parser, e.met⟩ e.step).1 ∧
      e.left = (step ⟨d.parser, e.met⟩ e.step).2.cache := by
  induction before generalizing d past ss with
  | nil =>
    cases ss with
    | nil => cases split
    | cons s ss =>
      obtain ⟨rfl, -⟩ := List.cons.inj split
      rw [List.map_nil, List.append_nil]
      exact ⟨h, rfl, rfl⟩
  | cons f before ih =>
    cases ss with
    | nil => cases split
    | cons s ss =>
      obtain ⟨rfl, rest⟩ := List.cons.inj split
      have next := parser_step d s
      have later := ih (next ▸ h.step s) rest
      rw [next] at later
      simpa using later

/-- A program that was parsed stays live until its version is dropped. -/
theorem live?_isSome {parser : Parse} (past : List Step) {s : Step}
    (parsed : s.parsed? parser version = some p) (stays : s.drops version = false)
    (kept : ∀ t ∈ mid, Step.drops version t = false) :
    (live? parser (past ++ s :: mid) version).isSome = true := by
  induction mid using List.reverseRecOn with
  | nil =>
    rw [live?_append, stays, parsed]
    simp
  | append_singleton mid t ih =>
    have before := ih fun u hu => kept u (List.mem_append_left [t] hu)
    rw [← List.cons_append, ← List.append_assoc, live?_append, kept t (by simp)]
    simp [before]

/-- An event that parses has met no program of the version it asks for. -/
theorem Event.parse?_eq_some {parser : Parse} {e : Event} (h : e.parse? parser = some made) :
    ∃ version script, e.step.request? = some (version, script) ∧ e.met.get? version = none ∧
      parser script = made := by
  obtain ⟨⟨version, script⟩, asks, set⟩ := Option.bind_eq_some_iff.mp h
  refine ⟨version, script, asks, ?_⟩
  simpa using set

/-- Between two parses that succeed, their version is dropped. -/
theorem trace_parse_once {d : Decipherer} (h : Records d.parser past d.cache)
    (split : d.trace ss = before ++ e :: (mid ++ f :: behind))
    (first : e.parse? d.parser = some (.ok p)) (second : f.parse? d.parser = some (.ok q))
    (asks : e.step.request? = some (version, script))
    (again : f.step.request? = some (version, other)) :
    ∃ g ∈ mid, g.step.drops version = true := by
  by_contra undropped
  have kept : ∀ t ∈ mid.map Event.step, Step.drops version t = false := by
    intro t ht
    obtain ⟨g, hg, rfl⟩ := List.mem_map.mp ht
    exact Bool.eq_false_iff.mpr fun dropped => undropped ⟨g, hg, dropped⟩
  obtain ⟨v, s, hs, -, made⟩ := Event.parse?_eq_some first
  obtain ⟨w, t, ht, missed, -⟩ := Event.parse?_eq_some second
  rw [asks, Option.some.injEq, Prod.mk.injEq] at hs
  rw [again, Option.some.injEq, Prod.mk.injEq] at ht
  obtain ⟨rfl, rfl⟩ := hs
  obtain ⟨rfl, rfl⟩ := ht
  have parsed : e.step.parsed? d.parser version = some p := by
    simp [Step.parsed?, asks, made, Except.toOption]
  rw [← List.cons_append, ← List.append_assoc] at split
  have met := (trace_event h split).1.get? version
  rw [missed, List.map_append, List.map_cons, ← List.append_assoc] at met
  have live := live?_isSome (past ++ before.map Event.step) parsed
    (Step.drops_request asks version) kept
  rw [← met] at live
  cases live

def Step.names? : Step → Option Text
  | .program version _ | .decipher version _ _ | .invalidate version => some version
  | .clear | .count => none

/-- The step names no other version. -/
def Step.concerns (version : Text) (s : Step) : Bool := s.names?.all (· == version)

def Step.asks (version : Text) (s : Step) : Bool := s.request?.any (·.1 == version)

/-- What those are answered who ask for the version. -/
def answersTo (version : Text) (events : List Event) : List Answer :=
  (events.filter fun e => e.step.asks version).map Event.answer

theorem Step.unconcerned {s : Step} (h : s.concerns version = false) (parser : Parse) :
    s.asks version = false ∧ s.drops version = false ∧ s.parsed? parser version = none := by
  cases s <;> simp_all [concerns, names?, asks, drops, parsed?, request?]

/-- Whoever asks for a version is told by the program kept of it and by nothing else in the
cache. -/
theorem answer_congr {d d' : Decipherer} (parser : d.parser = d'.parser)
    (same : d.cache.get? version = d'.cache.get? version) {s : Step}
    (asks : s.asks version = true) : (d.step s).1 = (d'.step s).1 := by
  cases s <;> simp [Step.asks, Step.request?] at asks
  · subst asks
    rw [answer_program, answer_program, parser, same]
  · subst asks
    rw [answer_decipher, answer_decipher, parser, same]

/-- Steps that name other versions can be left out. -/
theorem answersTo_filter {d d' : Decipherer} (keeps : d.cache.keeps = true)
    (keeps' : d'.cache.keeps = true) (parser : d.parser = d'.parser)
    (same : d.cache.get? version = d'.cache.get? version) (ss : List Step) :
    answersTo version (d'.trace (ss.filter (·.concerns version))) =
      answersTo version (d.trace ss) := by
  induction ss generalizing d d' with
  | nil => rfl
  | cons s ss ih =>
    have left : (d.step s).2.cache.keeps = true := (keeps_step d s).trans keeps
    have parsers : (d.step s).2.parser = d'.parser := (parser_step d s).trans parser
    cases concerned : s.concerns version with
    | true =>
      have left' : (d'.step s).2.cache.keeps = true := (keeps_step d' s).trans keeps'
      have next : (d.step s).2.cache.get? version = (d'.step s).2.cache.get? version := by
        rw [get?_step keeps, get?_step keeps', same, parser]
      have rest := ih left left' (parsers.trans (parser_step d' s).symm) next
      rw [List.filter_cons_of_pos concerned, trace, trace]
      cases asks : s.asks version with
      | true => simpa [answersTo, asks, answer_congr parser same asks] using rest
      | false => simpa [answersTo, asks] using rest
    | false =>
      obtain ⟨silent, stays, unparsed⟩ := Step.unconcerned concerned d.parser
      have next : (d.step s).2.cache.get? version = d'.cache.get? version := by
        rw [get?_step keeps, stays, unparsed, same]
        simp
      rw [List.filter_cons_of_neg (by simp [concerned]), ih left keeps' parsers next, trace]
      simp [answersTo, silent]

end Descramble.Decipherer
