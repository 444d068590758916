import Descramble.Proofs.Text.Gap
import Descramble.Proofs.Text.Pieces
import Descramble.Script.Helper

namespace Descramble.Text

theorem skipBlank_head (s : Text) : ∀ c ∈ (skipBlank s).head?, isBlank c = false := by
  induction s with
  | nil => simp
  | cons d s ih =>
    rw [skipBlank_cons]
    split
    · exact ih
    · next written =>
      intro c first
      obtain rfl : d = c := by simpa using first
      simpa using written

end Descramble.Text

namespace Descramble.Script

open Text (Gap Name)

theorem name?_append (stop : ∀ c ∈ r.head?, Text.isWordChar c = false) (name : Text) :
    name? name (name ++ r) = some r := by
  rw [name?, Text.isPrefixOf?_append]
  cases r with
  | nil => rfl
  | cons c r => simp [stop c rfl]

/-- A name is met as a whole or not at all. -/
theorem name?_eq_some_iff : name? name s = some r ↔
    s = name ++ r ∧ ∀ c ∈ r.head?, Text.isWordChar c = false := by
  constructor
  · intro found
    unfold name? at found
    split at found
    · cases found
    · next here =>
      obtain rfl := Option.some.inj found
      exact ⟨(List.isPrefixOf?_eq_some_iff_append_eq.mp here).symm, by simp⟩
    · next c t here =>
      split at found
      · cases found
      · next stop =>
        obtain rfl := Option.some.inj found
        exact ⟨(List.isPrefixOf?_eq_some_iff_append_eq.mp here).symm, by simpa using stop⟩
  · intro written
    rw [written.1]
    exact name?_append written.2 name

theorem keyword?_append (g : Gap) (apart : g.text ≠ [])
    (stop : ∀ c ∈ r.head?, Text.isBlank c = false) (word : Text) :
    keyword? word (word ++ (g.text ++ r)) = some r := by
  obtain ⟨c, gap, split⟩ := List.exists_cons_of_ne_nil apart
  have blank : Text.isBlank c = true := g.forall_mem c (by simp [split])
  have more : ∀ d ∈ gap, Text.isBlank d = true := fun d hd => g.forall_mem d (by simp [split, hd])
  rw [keyword?, Text.isPrefixOf?_append, split, List.cons_append]
  simp only [blank, if_true, Text.skipBlank_append more, Text.skipBlank_eq_self stop]

/-- A keyword is read with all blanks behind it, and there must be one. -/
theorem keyword?_eq_some_iff : keyword? word s = some r ↔ ∃ g : Gap, g.text ≠ [] ∧
    s = word ++ (g.text ++ r) ∧ ∀ c ∈ r.head?, Text.isBlank c = false := by
  constructor
  · intro found
    unfold keyword? at found
    split at found
    · next c t here =>
      split at found
      · next blank =>
        obtain ⟨g, split⟩ := Text.skipBlank_split t
        obtain rfl := Option.some.inj found
        have blanks : (c :: g.text).all Text.isBlank = true := by simp [blank, g.passes]
        refine ⟨⟨c :: g.text, blanks⟩, List.cons_ne_nil _ _, ?_, Text.skipBlank_head t⟩
        rw [List.cons_append, ← split, List.isPrefixOf?_eq_some_iff_append_eq.mp here]
      · cases found
    · cases found
  · intro written
    obtain ⟨g, apart, rfl, stop⟩ := written
    exact keyword?_append g apart stop word

structure CaptureForm where
  beforeKeyword : Gap
  keyword : Text
  known : keyword ∈ bindingWords
  beforeTemporary : Gap
  apart : beforeTemporary.text ≠ []
  temporary : Name
  beforeEquals : Gap
  beforeTarget : Gap

namespace CaptureForm

def declaration (d : CaptureForm) : Text :=
  d.keyword ++ (d.beforeTemporary.text ++ (d.temporary.text ++
    (d.beforeEquals.text ++ '=' :: d.beforeTarget.text)))

def front (d : CaptureForm) : Text := d.beforeKeyword.text ++ d.declaration

theorem skipBlank_front (d : CaptureForm) (s : Text) :
    Text.skipBlank (d.front ++ s) = d.declaration ++ s := by
  have keyword : ∀ t, Text.skipBlank (d.keyword ++ t) = d.keyword ++ t := by
    have known := d.known
    simp only [bindingWords, List.mem_cons, List.not_mem_nil, or_false] at known
    intro t
    rcases known with h | h | h <;> rw [h] <;> rfl
  rw [front, List.append_assoc, Text.skipBlank_append d.beforeKeyword.forall_mem, declaration,
    List.append_assoc, keyword]

theorem dot_not_mem (d : CaptureForm) : '.' ∉ d.declaration := by
  have known : ∀ w ∈ bindingWords, '.' ∉ w := by decide
  have temporary : '.' ∉ d.temporary.text := fun h =>
    Bool.false_ne_true (d.temporary.forall_mem '.' h)
  have gap : ∀ g : Gap, '.' ∉ g.text := fun g => g.not_mem rfl
  simp [declaration, known d.keyword d.known, temporary, gap]

/-- No keyword is the front of another. -/
theorem findSome?_keyword (d : CaptureForm) (stop : ∀ c ∈ s.head?, Text.isBlank c = false) :
    bindingWords.findSome? (fun word =>
      keyword? word (d.keyword ++ (d.beforeTemporary.text ++ s))) = some s := by
  have here := keyword?_append d.beforeTemporary d.apart stop d.keyword
  have known := d.known
  generalize d.keyword = word at here known
  generalize d.beforeTemporary.text ++ s = t at here
  simp only [bindingWords, List.mem_cons, List.not_mem_nil, or_false] at known
  rcases known with rfl | rfl | rfl
  · simp only [bindingWords, List.findSome?_cons, here]
  · have first : keyword? ['v', 'a', 'r'] (['l', 'e', 't'] ++ t) = none := rfl
    simp only [bindingWords, List.findSome?_cons, first, here]
  · have first : keyword? ['v', 'a', 'r'] (['c', 'o', 'n', 's', 't'] ++ t) = none := rfl
    have second : keyword? ['l', 'e', 't'] (['c', 'o', 'n', 's', 't'] ++ t) = none := rfl
    simp only [bindingWords, List.findSome?_cons, first, second, here]

/-- A declaration is recognised whatever its keyword and its blanks are. -/
theorem capture?_front (d : CaptureForm) (target : Name)
    (stop : ∀ c ∈ rest.head?, Text.isWordChar c = false) :
    capture? target.text (d.front ++ (target.text ++ rest)) = some rest := by
  have written : ∀ c ∈ (d.temporary.text ++ (d.beforeEquals.text ++
      '=' :: (d.beforeTarget.text ++ (target.text ++ rest)))).head?, Text.isBlank c = false := by
    intro c first
    rw [List.head?_append_of_ne_nil _ d.temporary.nonempty] at first
    exact Text.not_isBlank_of_isWordChar (d.temporary.forall_mem c (List.mem_of_mem_head? first))
  have key := d.findSome?_keyword written
  have word := Text.word?_append d.temporary.forall_mem d.temporary.nonempty
    (d.beforeEquals.not_isWordChar_head (c := '=') rfl
      (d.beforeTarget.text ++ (target.text ++ rest)))
  simp only [capture?, skipBlank_front, declaration, List.append_assoc, List.cons_append, key,
    Option.bind_eq_bind, Option.bind_some, word, d.beforeEquals.symbol?_mark (c := '=') rfl,
    d.beforeTarget.skipBlank_name, name?_append stop]

end CaptureForm

/-- Whatever is recognised is such a declaration. -/
theorem capture?_eq_some (h : capture? target body = some rest) :
    ∃ d : CaptureForm, body = d.front ++ (target ++ rest) ∧
      ∀ c ∈ rest.head?, Text.isWordChar c = false := by
  simp only [capture?, Option.bind_eq_bind, Option.bind_eq_some_iff, Prod.exists] at h
  obtain ⟨s, h₁, w, s₂, h₂, s₃, h₃, h₄⟩ := h
  obtain ⟨keyword, known, key⟩ := List.exists_of_findSome?_eq_some h₁
  obtain ⟨beforeKeyword, split⟩ := Text.skipBlank_split body
  obtain ⟨beforeTemporary, apart, behind, -⟩ := keyword?_eq_some_iff.mp key
  obtain ⟨rfl, nonempty, isWord, -⟩ := Text.word?_eq_some h₂
  obtain ⟨beforeEquals, rfl⟩ := Text.symbol?_exists_gap h₃
  obtain ⟨beforeTarget, target⟩ := Text.skipBlank_split s₃
  obtain ⟨whole, stop⟩ := name?_eq_some_iff.mp h₄
  refine ⟨⟨beforeKeyword, keyword, known, beforeTemporary, apart,
    ⟨w, nonempty, List.all_eq_true.mpr isWord⟩, beforeEquals, beforeTarget⟩, ?_, stop⟩
  rw [split, behind, target, whole]
  simp [CaptureForm.front, CaptureForm.declaration]

theorem capture?_declaration (target temporary : Name) (hc : Text.isWordChar c = false) (s : Text) :
    capture? target.text
        (['v', 'a', 'r', ' '] ++ (temporary.text ++ '=' :: (target.text ++ c :: s))) =
      some (c :: s) := by
  let d : CaptureForm :=
    ⟨.nothing, ['v', 'a', 'r'], List.mem_cons_self, ⟨[' '], rfl⟩, List.cons_ne_nil _ _, temporary,
      .nothing, .nothing⟩
  have front : d.front = ['v', 'a', 'r', ' '] ++ (temporary.text ++ ['=']) := rfl
  have stop : ∀ e ∈ (c :: s).head?, Text.isWordChar e = false := by simpa using hc
  have read := d.capture?_front target stop
  rw [front] at read
  simpa only [List.append_assoc, List.singleton_append] using read

/-- A declaration is read where it is written at the front, and only there. -/
theorem capture?_eq_some_iff (target : Name) : capture? target.text body = some rest ↔
    ∃ d : CaptureForm, body = d.front ++ (target.text ++ rest) ∧
      ∀ c ∈ rest.head?, Text.isWordChar c = false := by
  constructor
  · exact capture?_eq_some
  · intro written
    obtain ⟨d, rfl, stop⟩ := written
    exact d.capture?_front target stop

end Descramble.Script
