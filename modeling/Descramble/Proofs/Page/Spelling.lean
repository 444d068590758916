import Descramble.Proofs.Json.Printing
import Descramble.Proofs.Page.ScriptAddress
import Descramble.Proofs.Page.Step

namespace Descramble.Page

open Json (Spelled)
open Text (Avoids)
open Url

variable {s v : Text}

def fieldPage (v : Text) : Text := "\x7b\"jsUrl\":\"".toList ++ (v ++ "\"\x7d".toList)

theorem source?_fieldPage (full : v ≠ []) (unquoted : '"' ∉ v) :
    source? (fieldPage v) = some v := by
  refine source?_eq_some_iff.mpr (.inl ⟨1, ⟨full, unquoted, ['}'], rfl⟩, ?_⟩)
  intro j before u field
  obtain rfl : j = 0 := Nat.lt_one_iff.mp before
  obtain ⟨-, -, rest, split⟩ := field
  cases split

/-- The document has the string that is spelled in it. -/
theorem parse_fieldPage (h : Spelled s v) :
    Json.Value.parse (fieldPage v) = .ok (.object [("jsUrl".toList, .string s)]) := by
  have name : Spelled "jsUrl".toList "jsUrl".toList := Json.spelled_escaped "jsUrl".toList
  have whole : Json.Written (126 + 1) _ _ :=
    .object .nothing .nothing .nothing name (.string h) (.nil .nothing)
  have split : fieldPage v = "\x7b\"jsUrl\":\"".toList ++ (v ++ ['"'] ++ ['\x7d']) := by
    rw [List.append_assoc]
    rfl
  rw [split]
  exact Json.parse_written whole

/-- A site's path as a string has it. -/
structure Spelling where
  first : Step
  rest : List Step

namespace Spelling

variable (w : Spelling) {segment : PlainSegment}

def steps : List Step := w.first :: w.rest

def path : SitePath := ⟨w.first.segment, w.rest.map Step.segment⟩

def text : Text := spelledText w.steps

def segmentsBehindHost : List Text :=
  if w.rest.isEmpty then [[]] else spelledSegments w.rest

theorem resolve_rest :
    resolve [] (segmentsOf .special (dropSlash .special (spelledText w.rest))) =
      w.segmentsBehindHost := by
  rw [segmentsBehindHost]
  cases w.rest with
  | nil => rfl
  | cons step rest =>
    cases step with
    | plain segment => exact resolve_spelledText rest segment.canonical
    | escaped segment =>
      exact resolve_spelledText (.plain segment :: rest) canonicalSegment_nil

/-- A plain slash at the front keeps the path on the site. -/
theorem join_plain (h : w.first = .plain segment) :
    site.join w.text = .ok (secureAddress siteHost (spelledSegments w.steps)) := by
  have split : w.text = '/' :: (segment.text ++ spelledText w.rest) := by
    rw [text, steps, h]
    rfl
  have first : ∀ c ∈ (segment.text ++ spelledText w.rest).head?,
      Family.special.isSlash c = false :=
    (BareHost.ofSegment segment).not_isSlash_head _
  have inner : Avoids isMargin (segment.text ++ spelledText w.rest) :=
    segment.inner.append (avoids_spelledText w.rest rfl rfl PlainSegment.inner)
  have undivided : Undivided (segment.text ++ spelledText w.rest) :=
    Avoids.append segment.undivided (avoids_spelledText w.rest rfl rfl PlainSegment.undivided)
  rw [split, Address.join_slash rfl first inner undivided,
    resolve_spelledText w.rest segment.canonical, withPath_site, steps, h]
  rfl

/-- An escape leaves a backslash and a slash at the front, and an authority begins behind two
slashes. -/
theorem join_escaped (h : w.first = .escaped segment) :
    site.join w.text = (Host.ofDomain segment.text).map fun host =>
      secureAddress host w.segmentsBehindHost := by
  have split : w.text = '\\' :: '/' :: (segment.text ++ spelledText w.rest) := by
    rw [text, steps, h]
    rfl
  have special : familyOf site.scheme = .special := rfl
  have backslash : Family.special.isSlash '\\' = true := rfl
  have inner := avoids_spelledText w.rest rfl rfl PlainSegment.inner
  have undivided := avoids_spelledText w.rest rfl rfl PlainSegment.undivided
  have path := isSlash_head_spelledText w.rest
  rw [split, Address.join_slashes special backslash rfl (.ofSegment segment) path inner undivided,
    resolve_rest]
  rfl

/-- What the page comes to: behind an escape the first segment is the host, and each other escape
leaves an empty segment. -/
def answer : Except Fault Text :=
  match w.first with
  | .plain _ => .ok (origin ++ (Path.rooted (spelledSegments w.steps)).text)
  | .escaped segment =>
    match Host.ofDomain segment.text with
    | .ok host => .ok ("https://".toList ++ (host.text ++ (Path.rooted w.segmentsBehindHost).text))
    | .error cause => .error (.badUrl cause)

theorem source?_text : source? (fieldPage w.text) = some w.text := by
  refine source?_fieldPage ?_ ?_
  · rw [text, steps, spelledText, List.flatMap_cons]
    cases w.first <;> simp [Step.text]
  · have unquoted : Avoids (· == '"') w.text :=
      avoids_spelledText w.steps rfl rfl PlainSegment.unquoted
    exact unquoted.not_mem rfl

/-- What the page comes to depends on how the first slash is spelled, and on the escapes behind it.
-/
theorem scriptAddress_eq_answer : scriptAddress (fieldPage w.text) = w.answer := by
  rw [scriptAddress, source?_text, answer]
  cases first : w.first with
  | plain segment =>
    simp only [w.join_plain first, text_secureAddress]
    rfl
  | escaped segment =>
    simp only [w.join_escaped first]
    cases Host.ofDomain segment.text with
    | ok host => simp only [Except.map, text_secureAddress]
    | error cause => rfl

theorem path_segments : w.path.segments = w.steps.map (·.segment.text) := by
  simp [path, steps, SitePath.segments, Function.comp_def]

theorem path_text : w.path.text = w.steps.flatMap ('/' :: ·.segment.text) := by
  rw [SitePath.text, path_segments, Path.text, List.flatMap_map]

theorem spelled : Spelled w.path.text w.text := by
  rw [path_text]
  exact spelled_spelledText w.steps

theorem scriptAddress_path :
    scriptAddress (fieldPage w.path.text) = .ok (origin ++ w.path.text) := by
  have field : source? (fieldPage w.path.text) = some w.path.text := by
    obtain ⟨c, s, split, -⟩ := w.path.text_cons
    have unquoted : Avoids (· == '"') w.path.text :=
      w.path.avoids_text rfl PlainSegment.unquoted
    exact source?_fieldPage (by simp [split]) (unquoted.not_mem rfl)
  exact scriptAddress_of_path field

/-- Without an escape the spelling is the path. -/
theorem text_eq_path (h : ∀ step ∈ w.steps, step.isEscaped = false) : w.text = w.path.text := by
  rw [path_text, text, spelledText, List.flatMap_def, List.flatMap_def]
  refine congrArg List.flatten (List.map_congr_left fun step hs => ?_)
  cases step with
  | plain segment => rfl
  | escaped segment => cases h _ hs

/-- Behind the host there is one segment less. -/
theorem segmentsBehindHost_ne : w.segmentsBehindHost ≠ w.path.segments := by
  have behind : w.segmentsBehindHost.filter (!·.isEmpty) = w.rest.map (·.segment.text) := by
    rw [segmentsBehindHost]
    cases w.rest with
    | nil => rfl
    | cons step rest => exact filter_spelledSegments (step :: rest)
  have full : w.path.segments.filter (!·.isEmpty) = w.path.segments := by
    refine List.filter_eq_self.mpr (w.path.forall_mem_segments fun segment => ?_)
    simpa using segment.nonempty
  intro same
  have lengths : w.rest.length = w.path.segments.length := by
    rw [← full, ← same, behind, List.length_map]
  simp [path_segments, steps] at lengths

theorem whole_segmentsBehindHost :
    ∀ s ∈ w.segmentsBehindHost, Avoids Family.special.isSlash s := by
  rw [segmentsBehindHost]
  split
  · exact List.forall_mem_singleton.mpr (.nil _)
  · exact fun s hs => (canonical_spelledSegments w.rest s hs).whole

/-- The answer is that for the path only if no slash is escaped. -/
theorem not_isEscaped_of_answer (h : w.answer = .ok (origin ++ w.path.text)) :
    ∀ step ∈ w.steps, step.isEscaped = false := by
  have wholePath : ∀ s ∈ w.path.segments, Avoids Family.special.isSlash s :=
    fun s hs => (w.path.canonical s hs).whole
  rw [answer] at h
  split at h
  · have same := List.append_cancel_left (Except.ok.inj h)
    have whole : ∀ s ∈ spelledSegments w.steps, Avoids Family.special.isSlash s :=
      fun s hs => (canonical_spelledSegments w.steps s hs).whole
    obtain ⟨-, segments⟩ := Path.append_text_inj (.nil _) (.nil _) whole wholePath same
    refine (nil_not_mem_spelledSegments_iff w.steps).mp fun empty => ?_
    obtain ⟨segment, -, blank⟩ := List.mem_map.mp (segments ▸ empty)
    exact segment.nonempty blank
  · split at h
    next host found =>
      have same : host.text ++ (Path.rooted w.segmentsBehindHost).text =
          "www.youtube.com".toList ++ w.path.text := List.append_cancel_left (Except.ok.inj h)
      have hostWhole : Avoids Family.special.isSlash host.text :=
        (Host.canonical_ofDomain found).inner.mono fun _ => isSlash_of_isOuter
      have siteWhole : Avoids Family.special.isSlash "www.youtube.com".toList := by
        simp [Avoids, Family.isSlash]
      obtain ⟨-, segments⟩ := Path.append_text_inj hostWhole siteWhole w.whole_segmentsBehindHost
        wholePath same
      exact absurd segments w.segmentsBehindHost_ne
    · cases h

end Spelling

/-- However its slashes are spelled, the document has the same string in it, but the address is the
one of the path exactly if no slash is escaped. -/
theorem scriptAddress_spelling (w : Spelling) :
    Json.Value.parse (fieldPage w.text) =
      .ok (.object [("jsUrl".toList, .string w.path.text)]) ∧
    scriptAddress (fieldPage w.path.text) = .ok (origin ++ w.path.text) ∧
    scriptAddress (fieldPage w.text) = w.answer ∧
    (scriptAddress (fieldPage w.text) = scriptAddress (fieldPage w.path.text) ↔
      ∀ step ∈ w.steps, step.isEscaped = false) := by
  refine ⟨parse_fieldPage w.spelled, w.scriptAddress_path, w.scriptAddress_eq_answer, ?_⟩
  constructor
  · intro same
    rw [w.scriptAddress_eq_answer, w.scriptAddress_path] at same
    exact w.not_isEscaped_of_answer same
  · intro plain
    rw [w.text_eq_path plain]

/-- The first segment of a path is taken for a host, because a backslash in front of a slash makes
it two. -/
theorem scriptAddress_escaped_slash :
    let step (segment : PlainSegment) := Step.escaped segment
    let w : Spelling := ⟨step { text := "s".toList },
      [step { text := "x".toList }, step { text := "base.js".toList }]⟩
    w.path.text = "/s/x/base.js".toList ∧
      scriptAddress (fieldPage w.path.text) = .ok "https://www.youtube.com/s/x/base.js".toList ∧
      scriptAddress (fieldPage w.text) = .ok "https://s//x//base.js".toList ∧
      scriptAddress (fieldPage w.text) ≠ scriptAddress (fieldPage w.path.text) := by
  intro step w
  have escaped : scriptAddress (fieldPage w.text) = .ok "https://s//x//base.js".toList := by decide
  have plain : scriptAddress (fieldPage w.path.text) =
      .ok "https://www.youtube.com/s/x/base.js".toList := w.scriptAddress_path
  refine ⟨rfl, plain, escaped, ?_⟩
  rw [escaped, plain]
  decide

end Descramble.Page
