import Descramble.Proofs.Decipherer.Live

namespace Descramble.Decipherer

open Script (Parser)

/-- The versions for which some step brings along a script that can be parsed. -/
def parsable (parser : Parse) (ss : List Step) : List Text :=
  ss.filterMap fun s => s.request?.bind fun r => (parser r.2).toOption.map fun _ => r.1

/-- As long as no more versions are stored than the cache may hold, it changes at steps only. -/
theorem traceAmid_eq_trace (retains : Retains capacity between) {allowed : List Text}
    (room : allowed.dedup.length ≤ capacity) (P : Decipherer → Prop)
    (within : ∀ d, P d → d.cache.versions ⊆ allowed)
    (step : ∀ d, P d → ∀ s ∈ ss, P (d.step s).2)
    (start : P d) (before : stored past ⊆ allowed) : d.traceAmid between past ss = d.trace ss := by
  induction ss generalizing d past with
  | nil => rfl
  | cons s ss ih =>
    have now : stored (d.cache :: past) ⊆ allowed :=
      List.append_subset.mpr ⟨within d start, before⟩
    have few : (stored (d.cache :: past)).dedup.length ≤ capacity := by
      refine Nat.le_trans (List.Nodup.length_le_of_subset (List.nodup_dedup _) ?_) room
      intro v hv
      exact List.mem_dedup.mpr (now (List.mem_dedup.mp hv))
    have rest := ih (fun d hd t ht => step d hd t (List.mem_cons_of_mem s ht))
      (step d start s List.mem_cons_self) now
    simp only [traceAmid, trace, retains _ _ few, rest]

theorem mem_parsable {parser : Parse} (hs : s ∈ ss) (asks : s.request? = some (version, script))
    (made : parser script = .ok p) : version ∈ parsable parser ss := by
  refine List.mem_filterMap.mpr ⟨s, hs, ?_⟩
  simp [asks, made, Except.toOption]

/-- Whatever is stored during a run is what one of its scripts encodes. -/
theorem versions_step {d : Decipherer} (within : d.cache.versions ⊆ parsable d.parser ss)
    (hs : s ∈ ss) : (d.step s).2.cache.versions ⊆ parsable (d.step s).2.parser ss := by
  intro version hv
  obtain ⟨e, he, rfl⟩ := List.mem_map.mp hv
  rw [parser_step]
  rcases mem_step d s he with kept | ⟨script, asks, made⟩
  · exact within (List.mem_map.mpr ⟨e, kept, rfl⟩)
  · exact mem_parsable hs asks made

/-- With room for every version that can be parsed, nothing is forgotten between the steps. -/
theorem traceAmid_of_room (retains : Retains capacity between) {d : Decipherer} {ss : List Step}
    (empty : d.cache.entries = []) (room : (parsable d.parser ss).dedup.length ≤ capacity) :
    d.traceAmid between [] ss = d.trace ss := by
  apply traceAmid_eq_trace retains room
    (fun e => e.parser = d.parser ∧ e.cache.versions ⊆ parsable e.parser ss)
  · rintro e ⟨same, within⟩
    rw [← same]
    exact within
  · rintro e ⟨same, within⟩ s hs
    exact ⟨(parser_step e s).trans same, versions_step within hs⟩
  · simp [Cache.versions, empty]
  · simp [stored]

/-- A decipherer that keeps nothing stays as it is. -/
theorem step_keepless {d : Decipherer} (keepless : d.cache.keeps = false)
    (empty : d.cache.entries = []) (s : Step) : (d.step s).2 = d := by
  have cache : (d.step s).2.cache = d.cache := by
    obtain ⟨version, script, asks, left⟩ | ⟨version, rfl, left⟩ | ⟨rfl, left⟩ | ⟨rfl, left⟩ :=
      d.cache_step s
    all_goals rw [left]
    · unfold Cache.getOrInsert Cache.insert
      split
      · rfl
      · split <;> simp [keepless]
    · rw [Cache.erase, empty, List.filter_nil, ← empty]
    · rw [Cache.clear, ← empty]
  have parser := parser_step d s
  cases d
  cases hs : (step _ s).2
  simp_all

/-- A cache that keeps nothing is met empty and left empty. -/
theorem trace_keepless {d : Decipherer} (keepless : d.cache.keeps = false)
    (empty : d.cache.entries = []) (he : e ∈ d.trace ss) :
    e = ⟨e.step, d.cache, (d.step e.step).1, d.cache⟩ := by
  induction ss with
  | nil => cases he
  | cons s ss ih =>
    rw [trace, step_keepless keepless empty] at he
    rcases List.mem_cons.mp he with rfl | he
    · rfl
    · exact ih he

/-- Nothing is ever stored there, so there is nothing to forget either. -/
theorem traceAmid_keepless (retains : Retains capacity between) {d : Decipherer}
    (keepless : d.cache.keeps = false) (empty : d.cache.entries = []) (ss : List Step) :
    d.traceAmid between [] ss = d.trace ss := by
  have room : ([] : List Text).dedup.length ≤ capacity := Nat.zero_le capacity
  apply traceAmid_eq_trace retains room (· = d)
  · rintro e rfl
    simp [Cache.versions, empty]
  · rintro e rfl s -
    exact step_keepless keepless empty s
  · rfl
  · simp [stored]

/-- What a step is answered, and what it leaves, if `live` tells which programs are live before. -/
structure Event.Governed (parser : Parse) (live : Text → Option Program) (e : Event) : Prop where
  program : ∀ version script, e.step = .program version script →
    e.answer = .program (fetched (live version) (parser script))
  decipher : ∀ version script signature, e.step = .decipher version script signature →
    e.answer = .deciphered (fetched (live version) (parser script) >>= fun p =>
      p.apply signature)
  failed : ∀ version script fault, e.step.request? = some (version, script) →
    live version = none → parser script = .error fault → e.left = e.met
  kept : ∀ version script p, e.step.request? = some (version, script) →
    fetched (live version) (parser script) = .ok p → e.left.get? version = some p
  counted : e.step = .count → ∃ versions : List Text, versions.Nodup ∧
    (∀ version, version ∈ versions ↔ (live version).isSome = true) ∧
    e.answer = .count versions.length

/-- A step is governed by what is live before it, because that is what the cache holds. -/
theorem governed_step {d : Decipherer} (h : Records d.parser past d.cache) (s : Step) :
    Event.Governed d.parser (live? d.parser past)
      ⟨s, d.cache, (d.step s).1, (d.step s).2.cache⟩ := by
  constructor
  · rintro version script rfl
    rw [answer_program, h.get?]
  · rintro version script signature rfl
    rw [answer_decipher, h.get?]
  · intro version script fault asks unkept failed
    rw [← h.get?] at unkept
    rw [cache_request d asks, failed, Cache.getOrInsert_failed unkept]
  · intro version script p asks got
    rw [cache_request d asks, Cache.get?_getOrInsert h.keeps, if_pos rfl, h.get?]
    exact fetched_eq_ok.mp got
  · rintro rfl
    refine ⟨d.cache.versions, h.versions, ?_, ?_⟩
    · intro version
      rw [Cache.mem_versions, h.get?]
    · simp [step, Cache.size, Cache.versions]

/-- The events of a run are governed by the steps before them. -/
theorem trace_governed {d : Decipherer} (h : Records d.parser [] d.cache)
    (split : d.trace ss = before ++ e :: behind) :
    e.Governed d.parser (live? d.parser (before.map Event.step)) := by
  obtain ⟨records, answer, left⟩ := trace_event h split
  rw [List.nil_append] at records
  have governed := governed_step (d := ⟨d.parser, e.met⟩) records e.step
  rwa [← answer, ← left] at governed

/-- A decipherer that keeps nothing leaves every step to its own script. -/
theorem plain_keepless {d : Decipherer} (keepless : d.cache.keeps = false)
    (empty : d.cache.entries = []) (he : e ∈ d.trace ss) : e.Plain d.parser := by
  rw [trace_keepless keepless empty he]
  apply Event.plain_step
  intro version script asks
  simp [Cache.get?, empty, fetched]

/-- Where nothing is kept, every request sets off a parse of its own script. -/
theorem parse?_keepless {d : Decipherer} (keepless : d.cache.keeps = false)
    (empty : d.cache.entries = []) (he : e ∈ d.trace ss)
    (asks : e.step.request? = some (version, script)) :
    e.parse? d.parser = some (d.parser script) := by
  have met : e.met = d.cache := congrArg Event.met (trace_keepless keepless empty he)
  have miss : e.met.get? version = none := by simp [met, Cache.get?, empty]
  simp [Event.parse?, asks, miss]

theorem parsable_filter (parser : Parse) (f : Step → Bool) (ss : List Step) :
    (parsable parser (ss.filter f)).dedup.length ≤ (parsable parser ss).dedup.length := by
  apply List.Nodup.length_le_of_subset (List.nodup_dedup _)
  intro version hv
  rw [List.mem_dedup] at hv ⊢
  exact (List.filter_sublist.filterMap _).subset hv

theorem keep_eq_true {limits : Limits} (lasting : limits.lifetime.isZero = false)
    (roomy : 0 < limits.capacity) : limits.keep = true := by
  simp [Limits.keep, lasting, Nat.pos_iff_ne_zero.mp roomy]

theorem keep_eq_false {limits : Limits}
    (useless : limits.lifetime.isZero = true ∨ limits.capacity = 0) : limits.keep = false := by
  rcases useless with momentary | full
  · simp [Limits.keep, momentary]
  · simp [Limits.keep, full]

/-- As long as the cache is a map, every step is governed by the programs that are live before it:
those that were parsed first and whose versions were not dropped since. A cache that may hold
nothing leaves every step to its own script. -/
theorem traceAmid_lifetime (parser : Parser) (limits : Limits) (between : List Cache → Cache)
    (retains : Retains limits.capacity between) (steps : List Step) :
    let d : Decipherer := { parser, cache := .ofLimits limits }
    let events := d.traceAmid between [] steps
    events.map Event.step = steps ∧
    (limits.lifetime.isZero = false → 0 < limits.capacity →
      (parsable parser steps).dedup.length ≤ limits.capacity →
      events.map Event.answer = d.run steps ∧
      (∀ before e behind, events = before ++ e :: behind →
        e.Governed parser (live? parser (before.map Event.step))) ∧
      (∀ before e mid f behind version script other p q,
        events = before ++ e :: (mid ++ f :: behind) →
        e.step.request? = some (version, script) → f.step.request? = some (version, other) →
        e.parse? parser = some (.ok p) → f.parse? parser = some (.ok q) →
        ∃ g ∈ mid, g.step.drops version = true) ∧
      ∀ version, answersTo version
          (d.traceAmid between [] (steps.filter (·.concerns version))) =
        answersTo version events) ∧
    (limits.lifetime.isZero = true ∨ limits.capacity = 0 →
      events.map Event.answer = d.run steps ∧
      ∀ e ∈ events, e.Plain parser ∧
        (∀ version script, e.step.request? = some (version, script) →
          e.parse? parser = some (parser.parse script)) ∧
        (e.step = .count → e.answer = .count 0)) := by
  intro d events
  have empty : d.cache.entries = [] := rfl
  refine ⟨traceAmid_steps .., ?_, ?_⟩
  · intro lasting roomy room
    have records : Records d.parser [] d.cache := .start parser (keep_eq_true lasting roomy)
    have calm : events = d.trace steps := traceAmid_of_room retains empty room
    rw [calm]
    refine ⟨trace_answers .., ?_, ?_, ?_⟩
    · intro before e behind split
      exact trace_governed records split
    · intro before e mid f behind version script other p q split asks again first second
      exact trace_parse_once records split first second asks again
    · intro version
      have fewer := parsable_filter parser (·.concerns version) steps
      rw [traceAmid_of_room retains empty (Nat.le_trans fewer room)]
      exact answersTo_filter records.keeps records.keeps rfl rfl steps
  · intro useless
    have keepless : d.cache.keeps = false := keep_eq_false useless
    have calm : events = d.trace steps := traceAmid_keepless retains keepless empty steps
    rw [calm]
    refine ⟨trace_answers .., ?_⟩
    intro e he
    refine ⟨plain_keepless keepless empty he, ?_, ?_⟩
    · intro version script asks
      exact parse?_keepless keepless empty he asks
    · intro counts
      rw [trace_keepless keepless empty he, counts, step]
      simp [Cache.size, empty]

/-- A cache that forgets everything when it is given a second version. -/
def narrow (past : List Cache) : Cache :=
  if (stored past).dedup.length ≤ 1 then past.headD {} else {}

theorem retains_narrow : Retains 1 narrow := fun _ _ few => if_pos few

def mirror : Text :=
  "O={r:function(p){p.reverse()}};f=function(a){a;O.r(a);a};d.set('signature',f(c))".toList

/-- One version is asked for with a script that cannot be parsed, with one that can, and with the
first one again. -/
def visits : List Step :=
  [.program ['v'] [], .program ['v'] mirror, .count, .decipher ['v'] [] ['a', 'b'],
    .invalidate ['v'], .count]

theorem traceAmid_lifetime_narrow :
    Retains 1 narrow ∧ (parsable ({} : Parser) visits).dedup.length ≤ 1 ∧
    (traceAmid narrow [] { cache := .ofLimits { capacity := 1 } } visits).map Event.answer =
      [.program (.error (.shared (.entryNotFound Script.defaultKey))), .program (.ok [.reverse]),
        .count 1, .deciphered (.ok ['b', 'a']), .done, .count 0] := by
  have room : (parsable ({} : Parser) visits).dedup.length ≤ 1 := by decide +kernel
  have governed := (traceAmid_lifetime {} { capacity := 1 } narrow retains_narrow visits).2.1 rfl
    (by decide) room
  refine ⟨retains_narrow, room, governed.1.trans ?_⟩
  rfl

end Descramble.Decipherer
