import Descramble.Proofs.Script.Definition
import Descramble.Proofs.Text.Gap
import Descramble.Script.Function
import Descramble.Script.Helper

namespace Descramble.Script

open Text (Gap Name)

/-- How a key is written in front of the name of the function that is called with its value. -/
structure EntryForm where
  opening : Char
  closing : Char
  beforeComma : Gap
  beforeName : Gap
  name : Name
  opens : opening = '"' ∨ opening = '\''
  closes : closing = '"' ∨ closing = '\''

/-- How the definition of a function of one parameter begins, behind the name of the function. -/
structure HeaderForm where
  beforeEquals : Gap
  beforeFunction : Gap
  beforeParenthesis : Gap
  beforeParameter : Gap
  parameter : Name
  behindParameter : Gap
  beforeBrace : Gap

/-- How a function is written that is a member of an object, behind the name of the member. -/
structure MemberForm where
  beforeColon : Gap
  beforeFunction : Gap
  beforeParenthesis : Gap
  parameters : Text
  beforeBrace : Gap
  body : Text
  closesOnce : ')' ∉ parameters
  endsOnce : '}' ∉ body

namespace EntryForm

def link (e : EntryForm) : Text :=
  e.closing :: (e.beforeComma.text ++ ',' :: (e.beforeName.text ++ e.name.text))

theorem parenthesis_not_mem (e : EntryForm) : '(' ∉ e.link := by
  have closing : '(' ≠ e.closing := by
    obtain mark | mark := e.closes <;> rw [mark] <;> decide
  have name : '(' ∉ e.name.text := fun h => Bool.false_ne_true (e.name.forall_mem '(' h)
  simp [link, closing, e.beforeComma.not_mem (c := '(') rfl, e.beforeName.not_mem (c := '(') rfl,
    name]

theorem entryAt?_link (e : EntryForm) (key rest : Text) :
    entryAt? key (e.opening :: (key ++ (e.link ++ '(' :: rest))) = some e.name.text := by
  have stop : ∀ c ∈ ('(' :: rest).head?, Text.isWordChar c = false := by simp; rfl
  simp only [entryAt?, link, Text.quote?, e.opens, e.closes, if_true, Option.bind_eq_bind,
    Option.bind_some, Text.isPrefixOf?_append, List.cons_append, List.append_assoc,
    e.beforeComma.symbol?_mark (c := ',') rfl, e.beforeName.word?_name e.name stop, Text.char?,
    Option.pure_def]

end EntryForm

/-- A key is found where it is written in front of a call, and only there. -/
theorem entryAt?_eq_some_iff : entryAt? key s = some n ↔ ∃ (e : EntryForm) (rest : Text),
    s = e.opening :: (key ++ (e.link ++ '(' :: rest)) ∧ n = e.name.text := by
  constructor
  · intro h
    simp only [entryAt?, Option.bind_eq_bind, Option.bind_eq_some_iff, Prod.exists,
      Option.pure_def, Option.some.injEq] at h
    obtain ⟨s₁, h₁, s₂, h₂, s₃, h₃, s₄, h₄, w, s₅, h₅, rest, h₆, rfl⟩ := h
    obtain ⟨opening, opens, rfl⟩ := Text.quote?_eq_some h₁
    obtain ⟨closing, closes, rfl⟩ := Text.quote?_eq_some h₃
    obtain ⟨beforeComma, rfl⟩ := Text.symbol?_exists_gap h₄
    obtain ⟨beforeName, name, rfl, rfl⟩ := Text.word?_exists_gap h₅
    rw [Text.char?_eq_some h₆] at h₂
    rw [← List.isPrefixOf?_eq_some_iff_append_eq.mp h₂]
    exact ⟨⟨opening, closing, beforeComma, beforeName, name, opens, closes⟩, rest,
      by simp [EntryForm.link], rfl⟩
  · rintro ⟨e, rest, rfl, rfl⟩
    exact e.entryAt?_link key rest

namespace HeaderForm

def front (h : HeaderForm) (name : Text) : Text :=
  name ++ (h.beforeEquals.text ++ '=' :: (h.beforeFunction.text ++ (functionWord ++
    (h.beforeParenthesis.text ++ '(' :: (h.beforeParameter.text ++ (h.parameter.text ++
      (h.behindParameter.text ++ ')' :: h.beforeBrace.text)))))))

theorem brace_not_mem (h : HeaderForm) (hn : '{' ∉ name) : '{' ∉ h.front name := by
  have parameter : '{' ∉ h.parameter.text := fun hp =>
    Bool.false_ne_true (h.parameter.forall_mem '{' hp)
  have gap : ∀ g : Gap, '{' ∉ g.text := fun g => g.not_mem rfl
  simp [front, hn, parameter, gap, functionWord]

/-- A header is recognised whatever its blanks are. -/
theorem definitionAt?_front (h : HeaderForm) (name rest : Text) :
    definitionAt? name (h.front name ++ '{' :: rest) = some ('{' :: rest) := by
  have word := h.beforeFunction.skipBlank_name functionName
  have stop := h.behindParameter.not_isWordChar_head (c := ')') rfl
  simp only [functionName] at word
  simp only [definitionAt?, front, List.append_assoc, List.cons_append, Option.bind_eq_bind,
    Option.bind_some, Text.isPrefixOf?_append, h.beforeEquals.symbol?_mark (c := '=') rfl, word,
    h.beforeParenthesis.symbol?_mark (c := '(') rfl,
    h.beforeParameter.word?_name h.parameter (stop _),
    h.behindParameter.symbol?_mark (c := ')') rfl, h.beforeBrace.symbol?_mark (c := '{') rfl,
    Option.pure_def]

end HeaderForm

/-- A definition is found where its header is written, and only there. -/
theorem definitionAt?_eq_some_iff : definitionAt? name s = some r ↔
    ∃ (h : HeaderForm) (rest : Text), s = h.front name ++ '{' :: rest ∧ r = '{' :: rest := by
  constructor
  · intro found
    simp only [definitionAt?, Option.bind_eq_bind, Option.bind_eq_some_iff, Prod.exists,
      Option.pure_def, Option.some.injEq] at found
    obtain ⟨s₁, h₁, s₂, h₂, s₃, h₃, s₄, h₄, w, s₅, h₅, s₆, h₆, rest, h₇, rfl⟩ := found
    obtain ⟨beforeEquals, rfl⟩ := Text.symbol?_exists_gap h₂
    obtain ⟨beforeFunction, rfl⟩ := Text.isPrefixOf?_exists_gap h₃
    obtain ⟨beforeParenthesis, rfl⟩ := Text.symbol?_exists_gap h₄
    obtain ⟨beforeParameter, parameter, rfl, rfl⟩ := Text.word?_exists_gap h₅
    obtain ⟨behindParameter, rfl⟩ := Text.symbol?_exists_gap h₆
    obtain ⟨beforeBrace, rfl⟩ := Text.symbol?_exists_gap h₇
    rw [← List.isPrefixOf?_eq_some_iff_append_eq.mp h₁]
    exact ⟨⟨beforeEquals, beforeFunction, beforeParenthesis, beforeParameter, parameter,
      behindParameter, beforeBrace⟩, rest, by simp [HeaderForm.front], rfl⟩
  · rintro ⟨h, rest, rfl, rfl⟩
    exact h.definitionAt?_front name rest

namespace MemberForm

def helper (m : MemberForm) : Helper := ⟨parameterList m.parameters, m.body⟩

def front (m : MemberForm) (name : Text) : Text :=
  name ++ (m.beforeColon.text ++ ':' :: (m.beforeFunction.text ++ (functionWord ++
    (m.beforeParenthesis.text ++ '(' :: (m.parameters ++ ')' :: (m.beforeBrace.text ++
      '{' :: m.body))))))

/-- A member is recognised whatever its blanks are. -/
theorem helperAt?_front (m : MemberForm) (name rest : Text) :
    helperAt? name (m.front name ++ '}' :: rest) = some (m.helper, rest) := by
  have word := m.beforeFunction.skipBlank_name functionName
  simp only [functionName] at word
  simp only [helperAt?, front, List.append_assoc, List.cons_append, Option.bind_eq_bind,
    Option.bind_some, Text.isPrefixOf?_append, m.beforeColon.symbol?_mark (c := ':') rfl, word,
    m.beforeParenthesis.symbol?_mark (c := '(') rfl, Text.upTo?_append m.closesOnce,
    m.beforeBrace.symbol?_mark (c := '{') rfl, Text.upTo?_append m.endsOnce, helper,
    Option.pure_def]

end MemberForm

/-- A member is found where it is written, and only there. -/
theorem helperAt?_eq_some_iff : helperAt? name s = some (helper, rest) ↔
    ∃ m : MemberForm, s = m.front name ++ '}' :: rest ∧ helper = m.helper := by
  constructor
  · intro found
    simp only [helperAt?, Option.bind_eq_bind, Option.bind_eq_some_iff, Prod.exists,
      Option.pure_def, Option.some.injEq, Prod.mk.injEq] at found
    obtain ⟨s₁, h₁, s₂, h₂, s₃, h₃, s₄, h₄, parameters, s₅, h₅, s₆, h₆, body, s₇, h₇, rfl, rfl⟩ :=
      found
    obtain ⟨beforeColon, rfl⟩ := Text.symbol?_exists_gap h₂
    obtain ⟨beforeFunction, rfl⟩ := Text.isPrefixOf?_exists_gap h₃
    obtain ⟨beforeParenthesis, rfl⟩ := Text.symbol?_exists_gap h₄
    obtain ⟨rfl, closesOnce⟩ := Text.upTo?_eq_some h₅
    obtain ⟨beforeBrace, rfl⟩ := Text.symbol?_exists_gap h₆
    obtain ⟨rfl, endsOnce⟩ := Text.upTo?_eq_some h₇
    rw [← List.isPrefixOf?_eq_some_iff_append_eq.mp h₁]
    exact ⟨⟨beforeColon, beforeFunction, beforeParenthesis, parameters, beforeBrace, body,
      closesOnce, endsOnce⟩, by simp [MemberForm.front], rfl⟩
  · rintro ⟨m, rfl, rfl⟩
    exact m.helperAt?_front name rest

end Descramble.Script
