import Descramble.Proofs.Script.Capture
import Descramble.Proofs.Text.Extension

namespace Descramble.Script

open Text (Name)

/-- The body begins with a declaration that keeps element 0 of the target aside. Without blanks,
`behind` follows that element. -/
def Captures (target : Name) (body behind : Text) : Prop :=
  ∃ (d : CaptureForm) (rest : Text), body = d.front ++ (target.text ++ rest) ∧
    rest.filter (!Text.isBlank ·) = "[0]".toList ++ behind

/-- Element 0 of something whose name ends like the target stands in front of an equals sign. -/
def Mentions (target : Name) (s before behind : Text) : Prop :=
  s = before ++ (target.text ++ "[0]=".toList ++ behind)

/-- Such a mention assigns to the element of the target itself: the name is whole and belongs to no
other object, and the sign is not the first one of a comparison. -/
def Assigns (target : Name) (s before behind : Text) : Prop :=
  Mentions target s before behind ∧ Text.admits true before = true ∧ behind.head? ≠ some '='

/-- A capture is recognised exactly where one is written. -/
theorem captures_iff : Captures target body behind ↔ ∃ rest,
    capture? target.text body = some rest ∧
      rest.filter (!Text.isBlank ·) = "[0]".toList ++ behind := by
  constructor
  · intro captures
    obtain ⟨d, rest, rfl, solid⟩ := captures
    refine ⟨rest, d.capture?_front target ?_, solid⟩
    intro c first
    by_contra word
    rw [Bool.not_eq_false] at word
    -- A character of a word is no blank, so it would stand in the bracket's place.
    obtain ⟨r, rfl⟩ : ∃ r, rest = c :: r := by
      cases rest with
      | nil => cases first
      | cons d r => exact ⟨r, by simpa using first⟩
    have written := Text.not_isBlank_of_isWordChar word
    rw [List.filter_cons_of_pos (by simpa using written)] at solid
    obtain rfl : c = '[' := (List.cons.inj solid).1
    cases word
  · intro read
    obtain ⟨rest, found, solid⟩ := read
    obtain ⟨d, split, -⟩ := (capture?_eq_some_iff target).mp found
    exact ⟨d, rest, split, solid⟩

/-- A body is read as a declaration in one way. -/
theorem Captures.unique (h : Captures target body behind) (h' : Captures target body behind') :
    behind = behind' := by
  obtain ⟨rest, found, solid⟩ := captures_iff.mp h
  obtain ⟨rest', found', solid'⟩ := captures_iff.mp h'
  obtain rfl : rest = rest' := Option.some.inj (found.symm.trans found')
  exact (List.append_right_inj "[0]".toList).mp (solid.symm.trans solid')

/-- A swap is recognised by a capture and a mention, whether that assigns or not. -/
theorem Helper.isSwap_iff (target amount : Name) (body : Text) :
    Helper.isSwap ⟨[target.text, amount.text], body⟩ = true ↔
      ∃ s before behind, Captures target body s ∧ Mentions target s before behind := by
  have part : ∀ s, Text.hasPart (target.text ++ "[0]=".toList) s = true ↔
      ∃ before behind, Mentions target s before behind := fun s => Text.hasPart_iff
  constructor
  · intro swap
    unfold Helper.isSwap at swap
    simp only at swap
    split at swap
    · next rest found =>
      split at swap
      · next s front =>
        obtain ⟨before, behind, mention⟩ := (part s).mp swap
        have solid := (List.isPrefixOf?_eq_some_iff_append_eq.mp front).symm
        exact ⟨s, before, behind, captures_iff.mpr ⟨rest, found, solid⟩, mention⟩
      · cases swap
    · cases swap
  · intro written
    obtain ⟨s, before, behind, captures, mention⟩ := written
    obtain ⟨rest, found, solid⟩ := captures_iff.mp captures
    have front : ['[', '0', ']'].isPrefixOf? (rest.filter (!Text.isBlank ·)) = some s :=
      List.isPrefixOf?_eq_some_iff_append_eq.mpr solid.symm
    simp only [Helper.isSwap, found, front]
    exact (part s).mpr ⟨before, behind, mention⟩

/-- The body keeps element 0 of the target aside and then assigns to it. -/
def Overwrites (target : Name) (body : Text) : Prop :=
  ∃ s before behind, Captures target body s ∧ Assigns target s before behind

/-- It is enough to look at each position behind the captured element. -/
theorem not_overwrites (captures : Captures target body s)
    (other : ∀ i ≤ s.length, (target.text ++ "[0]=".toList).isPrefixOf (s.drop i) = true →
      Text.admits true (s.take i) = false ∨
        ((s.drop i).drop (target.text ++ "[0]=".toList).length).head? = some '=') :
    ¬ Overwrites target body := by
  intro overwrites
  obtain ⟨s', before, behind, captures', mention, whole, sign⟩ := overwrites
  obtain rfl := captures.unique captures'
  have split : s = before ++ (target.text ++ "[0]=".toList ++ behind) := mention
  have front : s.take before.length = before := by rw [split, List.take_left]
  have rest : s.drop before.length = target.text ++ "[0]=".toList ++ behind := by
    rw [split, List.drop_left]
  have here : before.length ≤ s.length := by simp [split]
  have written : (target.text ++ "[0]=".toList).isPrefixOf (s.drop before.length) = true := by
    rw [rest, List.isPrefixOf_iff_prefix]
    exact List.prefix_append _ _
  rcases other before.length here written with part | comparison
  · rw [front, whole] at part
    cases part
  · rw [rest, List.drop_left] at comparison
    exact sign comparison

/-- A helper of two parameters is taken for a swap exactly if it keeps element 0 of the first one
aside and mentions such an element in front of an equals sign afterwards. That holds of all that
overwrite the element, and else of those whose mentions all are part of a longer name, of another
object or of a comparison. -/
theorem Helper.isSwap_overwrites (target amount : Name) (body : Text) :
    let swap := Helper.isSwap ⟨[target.text, amount.text], body⟩
    (swap = true ↔
      ∃ s before behind, Captures target body s ∧ Mentions target s before behind) ∧
    (Overwrites target body → swap = true) ∧
    (swap = true ∧ ¬ Overwrites target body ↔ ∃ s, Captures target body s ∧
      (∃ before behind, Mentions target s before behind) ∧
      ∀ before behind, Mentions target s before behind →
        Text.admits true before = false ∨ behind.head? = some '=') := by
  intro swap
  have accepted : swap = true ↔
      ∃ s before behind, Captures target body s ∧ Mentions target s before behind :=
    Helper.isSwap_iff target amount body
  refine ⟨accepted, ?_, ?_⟩
  · intro overwrites
    obtain ⟨s, before, behind, captures, mention, -⟩ := overwrites
    exact accepted.mpr ⟨s, before, behind, captures, mention⟩
  · constructor
    · intro wrong
      obtain ⟨taken, never⟩ := wrong
      obtain ⟨s, before, behind, captures, mention⟩ := accepted.mp taken
      refine ⟨s, captures, ⟨before, behind, mention⟩, ?_⟩
      intro before' behind' mention'
      by_contra assigns
      rw [not_or, Bool.not_eq_false] at assigns
      exact never ⟨s, before', behind', captures, mention', assigns⟩
    · intro others
      obtain ⟨s, captures, ⟨before, behind, mention⟩, other⟩ := others
      refine ⟨accepted.mpr ⟨s, before, behind, captures, mention⟩, ?_⟩
      intro overwrites
      obtain ⟨s', before', behind', captures', mention', whole, sign⟩ := overwrites
      obtain rfl := captures.unique captures'
      rcases other before' behind' mention' with part | comparison
      · rw [whole] at part
        cases part
      · exact sign comparison

/-- A longer name and a comparison are taken for assignments. -/
theorem Helper.isSwap_overwrites_nothing :
    let a : Name := ⟨"a".toList, by decide, by decide⟩
    let longer := "var c=a[0];aa[0]=b".toList
    let comparison := "var c=a[0];if(a[0]==b)return c".toList
    (Helper.isSwap ⟨["a".toList, "b".toList], longer⟩ = true ∧ ¬ Overwrites a longer) ∧
    (Helper.isSwap ⟨["a".toList, "b".toList], comparison⟩ = true ∧ ¬ Overwrites a comparison) := by
  intro a longer comparison
  have captured : Captures a longer ";aa[0]=b".toList :=
    captures_iff.mpr ⟨"[0];aa[0]=b".toList, by decide, by decide⟩
  have captured' : Captures a comparison ";if(a[0]==b)returnc".toList :=
    captures_iff.mpr ⟨"[0];if(a[0]==b)return c".toList, by decide, by decide⟩
  refine ⟨⟨by decide, not_overwrites captured ?_⟩, by decide, not_overwrites captured' ?_⟩
  · decide
  · decide

end Descramble.Script
