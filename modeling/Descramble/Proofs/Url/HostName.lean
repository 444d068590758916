import Descramble.Proofs.Url.Host
import Descramble.Proofs.Url.Unreserved

namespace Descramble.Url

open Text (Avoids)

abbrev Label := Text.Span Char.isLower

/-- A test that small letters come out of in one way is looked up for each of them. -/
theorem eq_of_isLower {p : Char → α} {a : α} (table : ∀ n < 26, p (Char.ofNat (97 + n)) = a)
    (h : c.isLower = true) : p c = a := by
  obtain ⟨first, last⟩ := Bool.and_eq_true_iff.mp h
  have first : 97 ≤ c.toNat := of_decide_eq_true first
  have last : c.toNat ≤ 122 := of_decide_eq_true last
  have here := table (c.toNat - 97) (by omega)
  rw [Nat.add_sub_cancel' first, Char.ofNat_toNat] at here
  exact here

namespace Label

variable (label : Label) (labels : List Label)

theorem forall_mem_eq {p : Char → α} {a : α} (table : ∀ n < 26, p (Char.ofNat (97 + n)) = a) :
    ∀ c ∈ label.text, p c = a :=
  fun c hc => eq_of_isLower table (label.forall_mem c hc)

theorem undotted : '.' ∉ label.text := label.not_mem (by decide)

/-- No label is the code of a text beyond ASCII, because a hyphen would be in it. -/
theorem shown?_text : Name.shown? label.text = some label.text := by
  cases code : "xn--".toList.isPrefixOf? label.text with
  | none => rw [Name.shown?, code]
  | some s =>
    have split := List.isPrefixOf?_eq_some_iff_append_eq.mp code
    have hyphen : '-' ∈ label.text := by simp [← split]
    exact absurd hyphen (label.not_mem (by decide))

/-- Labels of letters read to the right throughout. -/
theorem isName_texts : Name.isName (labels.map Text.Span.text) = true := by
  apply Name.isName_of_shown
  · intro s mem
    obtain ⟨label, -, rfl⟩ := List.mem_map.mp mem
    exact Label.shown?_text label
  · intro s mem c hc
    obtain ⟨label, -, rfl⟩ := List.mem_map.mp mem
    have left : Name.directionOf c = .left := forall_mem_eq label (by decide) c hc
    rw [left]
    exact ⟨nofun, nofun⟩

/-- A letter is no digit of a decimal or octal number, and no mark of a hexadecimal one is in front
of it. -/
theorem part?_text : Ipv4.part? label.text = none := by
  obtain ⟨c, s, split, lower, -⟩ := label.exists_cons
  have zero : c ≠ '0' := by
    rintro rfl
    cases lower
  have large : (Ipv4.numeral?.digit? c).all (10 ≤ ·) = true :=
    eq_of_isLower (p := fun c => (Ipv4.numeral?.digit? c).all (10 ≤ ·)) (by decide) lower
  rw [split, Ipv4.part?]
  · rw [Ipv4.numeral?, List.foldlM_cons]
    cases value : Ipv4.numeral?.digit? c with
    | none => rfl
    | some d =>
      have above : ¬ d < 10 := by simpa [value] using large
      simp [above]
  all_goals simp [zero]

theorem lastLabel_texts :
    Ipv4.lastLabel (labels.map Text.Span.text) = [] ∨
      ∃ label : Label, Ipv4.lastLabel (labels.map Text.Span.text) = label.text := by
  unfold Ipv4.lastLabel
  rw [← List.map_reverse]
  cases labels.reverse with
  | nil => exact .inl rfl
  | cons label rest =>
    right
    refine ⟨label, ?_⟩
    obtain ⟨c, s, split, -⟩ := label.exists_cons
    simp only [List.map_cons, split]

/-- A name of letters is no address. -/
theorem isNumeric_texts : Ipv4.isNumeric (labels.map Text.Span.text) = false := by
  unfold Ipv4.isNumeric
  rcases lastLabel_texts labels with nothing | ⟨label, last⟩
  · rw [nothing]
    rfl
  · obtain ⟨c, s, split, lower, -⟩ := label.exists_cons
    have letter : c.isDigit = false := eq_of_isLower (by decide) lower
    simp only [last, label.part?_text]
    simp [split, letter]

end Label

structure HostName where
  first : Label
  rest : List Label

namespace HostName

variable (h : HostName)

def labels : List Text := (h.first :: h.rest).map Text.Span.text

def text : Text := Text.join ['.'] h.labels

theorem labelsOf_text : Host.labelsOf h.text = h.labels := by
  refine Text.pieces_join '.' ?_ (List.cons_ne_nil _ _)
  intro s hs
  obtain ⟨label, -, rfl⟩ := List.mem_map.mp hs
  exact Label.undotted label

theorem forall_mem {P : Char → Prop} (dot : P '.')
    (letters : ∀ label : Label, ∀ c ∈ label.text, P c) : ∀ c ∈ h.text, P c := by
  intro c hc
  rcases Text.mem_join hc with separator | ⟨s, hs, hc⟩
  · exact List.mem_singleton.mp separator ▸ dot
  · obtain ⟨label, -, rfl⟩ := List.mem_map.mp hs
    exact letters label c hc

theorem nonempty : h.text ≠ [] := by
  intro empty
  have labels := h.labelsOf_text
  rw [empty] at labels
  exact h.first.nonempty (List.cons.inj labels).1.symm

theorem unreserved : h.text.all isUnreserved = true :=
  List.all_eq_true.mpr
    (h.forall_mem rfl fun label => label.forall_mem_eq (by decide))

theorem canonical : Host.Canonical (.name h.text) := by
  have lower : ∀ c ∈ h.text, c.toLower = id c := by
    refine h.forall_mem rfl fun label c hc => ?_
    have same := label.forall_mem_eq (p := fun c => decide (c.toLower = c)) (a := true) (by decide)
    exact of_decide_eq_true (same c hc)
  refine .name h.text h.nonempty ?_ ?_ ?_ ?_
  · exact h.forall_mem rfl fun label => label.forall_mem_eq (by decide)
  · rw [List.map_congr_left lower, List.map_id]
  · rw [h.labelsOf_text]
    exact Label.isName_texts _
  · rw [h.labelsOf_text]
    exact Label.isNumeric_texts _

end HostName
end Descramble.Url
