import Descramble.Proofs.Script.Capture
import Descramble.Proofs.Text.Separation

namespace Descramble.Script

open Text (Gap Name)

/-- A name is no keyword unless it is spelled like one and a blank follows. -/
theorem keyword?_name (word n : Name) (hc : Text.isWordChar c = false)
    (hb : word.text = n.text → Text.isBlank c = false) (s : Text) :
    keyword? word.text (n.text ++ c :: s) = none := by
  rw [keyword?]
  rcases word.isPrefixOf?_name n hc s with ⟨he, hr⟩ | ⟨he, left⟩
  · simp [hr, hb he]
  · cases hr : word.text.isPrefixOf? (n.text ++ c :: s) with
    | none => rfl
    | some r =>
      obtain ⟨d, t, rfl, hd⟩ := left r hr
      simp [Text.not_isBlank_of_isWordChar hd]

def Returns (lead : Text) : Prop :=
  lead = [] ∨ ∃ g : Gap, g.text ≠ [] ∧ lead = returnWord ++ g.text

theorem exists_returns (s : Text) :
    ∃ lead, Returns lead ∧ s = lead ++ (keyword? returnWord s).getD s := by
  cases key : keyword? returnWord s with
  | none => exact ⟨[], .inl rfl, rfl⟩
  | some r =>
    obtain ⟨g, apart, split, -⟩ := keyword?_eq_some_iff.mp key
    exact ⟨returnWord ++ g.text, .inr ⟨g, apart, rfl⟩, by simp [split]⟩

/-- How a body is written that selects a part of something. The list of arguments may be broken
off. -/
structure SelectionForm where
  beforeLead : Gap
  lead : Text
  returns : Returns lead
  beforeDot : Gap
  beforeMethod : Gap
  method : Text
  known : method ∈ selectionWords
  beforeParenthesis : Gap
  arguments : Text
  unclosed : ')' ∉ arguments
  rest : Text
  closed : ∀ c ∈ rest.head?, c = ')'

namespace SelectionForm

def call (d : SelectionForm) : Text :=
  d.beforeDot.text ++ '.' :: (d.beforeMethod.text ++ (d.method ++ (d.beforeParenthesis.text ++
    '(' :: (d.arguments ++ d.rest))))

def text (d : SelectionForm) (target : Text) : Text :=
  d.beforeLead.text ++ (d.lead ++ (target ++ d.call))

theorem word?_method (d : SelectionForm) (s : Text) :
    Text.word? (Text.skipBlank (d.beforeMethod.text ++ (d.method ++ (d.beforeParenthesis.text ++
      '(' :: s)))) = some (d.method, d.beforeParenthesis.text ++ '(' :: s) := by
  have words : ∀ m ∈ selectionWords, m ≠ [] ∧ m.all Text.isWordChar = true := by decide
  obtain ⟨nonempty, isWord⟩ := words d.method d.known
  exact d.beforeMethod.word?_name ⟨d.method, nonempty, isWord⟩
    (d.beforeParenthesis.not_isWordChar_head (c := '(') rfl s)

theorem takeWhile_arguments (d : SelectionForm) :
    (d.arguments ++ d.rest).takeWhile (· != ')') = d.arguments := by
  have inside : Text.Avoids (· == ')') d.arguments := by
    intro c hc
    rw [beq_eq_false_iff_ne]
    rintro rfl
    exact d.unclosed hc
  exact inside.takeWhile_append fun c first => by simp [d.closed c first]

theorem skipBlank_text (d : SelectionForm) (target : Name) :
    Text.skipBlank (d.text target.text) = d.lead ++ (target.text ++ d.call) := by
  rw [text, Text.skipBlank_append d.beforeLead.forall_mem]
  rcases d.returns with bare | ⟨g, -, led⟩
  · rw [bare, List.nil_append, target.skipBlank_append]
  · rw [led]
    rfl

theorem keyword?_text (d : SelectionForm) (target : Name)
    (other : target.text = returnWord → d.lead = [] → d.beforeDot.text = []) :
    (keyword? returnWord (d.lead ++ (target.text ++ d.call))).getD
      (d.lead ++ (target.text ++ d.call)) = target.text ++ d.call := by
  rcases d.returns with bare | ⟨g, apart, led⟩
  · -- Behind the target stands a blank or the dot, and only a blank could make it the keyword.
    obtain ⟨c, s, split⟩ := List.exists_cons_of_ne_nil (show d.call ≠ [] by simp [call])
    have hc : Text.isWordChar c = false :=
      d.beforeDot.not_isWordChar_head (c := '.') rfl _ c (by rw [← call, split]; rfl)
    have hb : returnWord = target.text → Text.isBlank c = false := by
      intro same
      have together := other same.symm bare
      rw [call, together] at split
      rw [← (List.cons.inj split).1]
      rfl
    rw [bare, List.nil_append, split,
      keyword?_name ⟨returnWord, by simp [returnWord], rfl⟩ target hc hb, Option.getD_none]
  · have written : ∀ c ∈ (target.text ++ d.call).head?, Text.isBlank c = false := by
      intro c first
      rw [List.head?_append_of_ne_nil _ target.nonempty] at first
      exact Text.not_isBlank_of_isWordChar (target.forall_mem c (List.mem_of_mem_head? first))
    rw [led, List.append_assoc, keyword?_append g apart written, Option.getD_some]

/-- The arguments are read, unless the target is called `return` and could be taken for the
keyword. -/
theorem selection?_text (d : SelectionForm) (target : Name)
    (other : target.text = returnWord → d.lead = [] → d.beforeDot.text = []) :
    selection? target.text (d.text target.text) = some d.arguments := by
  have stop : ∀ c ∈ d.call.head?, Text.isWordChar c = false :=
    d.beforeDot.not_isWordChar_head (c := '.') rfl _
  simp only [selection?, d.skipBlank_text, d.keyword?_text target other, name?_append stop,
    Option.bind_eq_bind, Option.bind_some]
  simp only [call, d.beforeDot.symbol?_mark (c := '.') rfl, Option.bind_some, d.word?_method,
    d.known, if_true, d.beforeParenthesis.symbol?_mark (c := '(') rfl, d.takeWhile_arguments,
    Option.pure_def]

/-- A selection is recognised whatever its blanks and its method are. -/
theorem isSlice_text (d : SelectionForm) (target amount : Name)
    (other : target.text = returnWord → d.lead = [] → d.beforeDot.text = [])
    (whole : Text.Separated (!Text.isWordChar ·) amount.text d.arguments) :
    Helper.isSlice ⟨[target.text, amount.text], d.text target.text⟩ = true := by
  have word : Text.Avoids (!Text.isWordChar ·) amount.text := by
    intro c hc
    simp [amount.forall_mem c hc]
  simp only [Helper.isSlice, d.selection?_text target other]
  exact List.contains_iff_mem.mpr (Text.mem_pieces_iff.mpr ⟨word, whole⟩)

end SelectionForm

/-- Whatever is recognised is such a selection. -/
theorem selection?_eq_some (h : selection? target body = some arguments) :
    ∃ d : SelectionForm, body = d.text target ∧ d.arguments = arguments := by
  simp only [selection?, Option.bind_eq_bind, Option.bind_eq_some_iff, Prod.exists] at h
  obtain ⟨s₁, h₁, s₂, h₂, method, s₃, h₃, h₄⟩ := h
  split at h₄
  · next known =>
    obtain ⟨behind, h₄, h₅⟩ := Option.bind_eq_some_iff.mp h₄
    obtain ⟨beforeLead, split⟩ := Text.skipBlank_split body
    obtain ⟨lead, returns, written⟩ := exists_returns (Text.skipBlank body)
    obtain ⟨whole, -⟩ := name?_eq_some_iff.mp h₁
    obtain ⟨beforeDot, rfl⟩ := Text.symbol?_exists_gap h₂
    obtain ⟨beforeMethod, name, rfl, rfl⟩ := Text.word?_exists_gap h₃
    obtain ⟨beforeParenthesis, rfl⟩ := Text.symbol?_exists_gap h₄
    obtain ⟨inside, rest, rfl, unclosed, closed, taken⟩ := Text.exists_cut (· == ')') behind
    refine ⟨⟨beforeLead, lead, returns, beforeDot, beforeMethod, name.text, known,
      beforeParenthesis, inside, unclosed.not_mem rfl, rest, by simpa using closed⟩, ?_, ?_⟩
    · rw [split, written, whole]
      simp [SelectionForm.text, SelectionForm.call]
    · exact taken.symm.trans (Option.some.inj h₅)
  · cases h₄

/-- A helper of two parameters is taken for a slice exactly if its body selects a part of the first
one and has the second one, as a whole, among the arguments. -/
theorem Helper.isSlice_iff (target amount : Name) (body : Text)
    (other : target.text ≠ returnWord) :
    Helper.isSlice ⟨[target.text, amount.text], body⟩ = true ↔ ∃ d : SelectionForm,
      body = d.text target.text ∧ Text.Separated (!Text.isWordChar ·) amount.text d.arguments := by
  constructor
  · intro slice
    unfold Helper.isSlice at slice
    simp only at slice
    split at slice
    · next arguments selected =>
      obtain ⟨d, written, rfl⟩ := selection?_eq_some selected
      exact ⟨d, written, (Text.mem_pieces_iff.mp (List.contains_iff_mem.mp slice)).2⟩
    · cases slice
  · intro selects
    obtain ⟨d, rfl, whole⟩ := selects
    exact d.isSlice_text target amount (fun same => absurd same other) whole

/-- The name may begin like the keyword, and the list need not be closed. -/
theorem Helper.isSlice_iff_returned :
    let target : Name := ⟨"returned".toList, by decide, by decide⟩
    let amount : Name := ⟨"n".toList, by decide, by decide⟩
    let body := "return returned .substr( x,n".toList
    target.text ≠ returnWord ∧ Helper.isSlice ⟨[target.text, amount.text], body⟩ = true ∧
      ∃ d : SelectionForm, body = d.text target.text ∧
        Text.Separated (!Text.isWordChar ·) amount.text d.arguments := by
  intro target amount body
  have other : target.text ≠ returnWord := by decide
  have slice : Helper.isSlice ⟨[target.text, amount.text], body⟩ = true := by decide
  exact ⟨other, slice, (Helper.isSlice_iff target amount body other).mp slice⟩

end Descramble.Script
