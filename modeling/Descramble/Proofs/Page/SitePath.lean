import Descramble.Page.ScriptAddress
import Descramble.Proofs.Url.HostName
import Descramble.Proofs.Url.Relative

namespace Descramble.Page

open Text (Avoids)
open Url

/-- A path that stands in addresses as it is. -/
structure SitePath where
  first : PlainSegment
  rest : List PlainSegment

namespace SitePath

variable (p : SitePath)

def segments : List Text := (p.first :: p.rest).map fun segment => segment.text

def text : Text := (Path.rooted p.segments).text

theorem forall_mem_segments {P : Text → Prop} (h : ∀ segment : PlainSegment, P segment.text) :
    ∀ s ∈ p.segments, P s := by
  intro s hs
  obtain ⟨segment, -, rfl⟩ := List.mem_map.mp hs
  exact h segment

theorem canonical : ∀ s ∈ p.segments, CanonicalSegment s :=
  p.forall_mem_segments PlainSegment.canonical

theorem avoids_text {q : Char → Bool} (slash : q '/' = false)
    (h : ∀ segment : PlainSegment, Avoids q segment.text) : Avoids q p.text :=
  Path.avoids_text slash (p.forall_mem_segments h)

theorem undivided : Undivided p.text := p.avoids_text rfl PlainSegment.undivided

theorem inner : Avoids isMargin p.text := p.avoids_text rfl PlainSegment.inner

theorem resolve_text :
    resolve [] (segmentsOf .special (dropSlash .special p.text)) = p.segments :=
  resolve_segmentsOf_text (List.cons_ne_nil _ _) p.canonical

/-- A segment follows the slash at the front. -/
theorem text_cons : ∃ c s, p.text = '/' :: c :: s ∧ Family.special.isSlash c = false := by
  cases first : p.first.text with
  | nil => exact absurd first p.first.nonempty
  | cons c s =>
    have whole : Family.special.isSlash c = false := p.first.whole c (by simp [first])
    refine ⟨c, s ++ p.rest.flatMap ('/' :: ·.text), ?_, whole⟩
    simp [text, segments, Path.text, first, List.flatMap_map]

end SitePath

def secureAddress (host : Host) (segments : List Text) : Address where
  scheme := "https".toList
  authority := some { host }
  path := .rooted segments

theorem text_secureAddress (host : Host) (segments : List Text) :
    (secureAddress host segments).text =
      "https://".toList ++ (host.text ++ (Path.rooted segments).text) := by
  simp [secureAddress, Address.text, Address.front, Address.queryText, Address.fragmentText,
    Authority.text_of_host]

def siteHost : Host := .name "www.youtube.com".toList

theorem withPath_site (segments : List Text) :
    site.withPath segments = secureAddress siteHost segments := rfl

variable (p : SitePath)

/-- A path is one on the site. -/
theorem join_path : site.join p.text = .ok (secureAddress siteHost p.segments) := by
  obtain ⟨c, s, split, whole⟩ := p.text_cons
  have resolved := p.resolve_text
  obtain ⟨-, inner⟩ := List.forall_mem_cons.mp (split ▸ p.inner)
  obtain ⟨-, undivided⟩ := List.forall_mem_cons.mp (split ▸ p.undivided)
  rw [split] at resolved ⊢
  rw [Address.join_slash rfl (by simpa using whole) inner undivided, withPath_site, ← resolved]
  rfl

/-- Behind two slashes a path is one on the host in front of it. -/
theorem join_host (h : HostName) :
    site.join ("//".toList ++ (h.text ++ p.text)) =
      .ok (secureAddress (.name h.text) p.segments) := by
  have bare : BareHost h.text := .of_unreserved h.nonempty h.unreserved
  have path : ∀ d ∈ p.text.head?, Family.special.isSlash d = true := by
    rintro d ⟨⟩
    rfl
  have special : familyOf site.scheme = .special := rfl
  have slash : Family.special.isSlash '/' = true := rfl
  have joined := Address.join_slashes special slash slash bare path p.inner p.undivided
  rw [Host.ofDomain_name h.canonical, p.resolve_text] at joined
  exact joined

end Descramble.Page
