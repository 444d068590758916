import Descramble.Proofs.Script.Member
import Descramble.Proofs.Text.Decimal
import Descramble.Script.Parser

namespace Descramble.Script

open Text (Name)

/-- Besides the characters of words the text has no others than the marks. -/
def Inside (marks : List Char) (u : Text) : Prop :=
  ∀ c ∈ u, Text.isWordChar c = true ∨ c ∈ marks

def codeMarks : List Char := ['[', '%', '.', ']', '=', ';', '(', ')', ',', ' ', ':', '{', '}']

def plainMarks : List Char := ['[', '%', '.', ']', '=', ';', '(', ')', ',', ' ']

@[simp] theorem inside_nil : Inside marks [] := nofun

@[simp] theorem inside_cons :
    Inside marks (c :: u) ↔ (Text.isWordChar c = true ∨ c ∈ marks) ∧ Inside marks u :=
  List.forall_mem_cons

@[simp] theorem inside_append : Inside marks (u ++ v) ↔ Inside marks u ∧ Inside marks v :=
  List.forall_mem_append

@[simp] theorem inside_flatMap {xs : List α} {f : α → Text} :
    Inside marks (xs.flatMap f) ↔ ∀ x ∈ xs, Inside marks (f x) :=
  List.forall_mem_flatMap

@[simp] theorem inside_name (n : Name) : Inside marks n.text := fun c hc => .inl (n.forall_mem c hc)

@[simp] theorem inside_join (hs : Inside marks separator) (hps : ∀ p ∈ ps, Inside marks p) :
    Inside marks (Text.join separator ps) := by
  intro c hc
  rcases Text.mem_join hc with hc | ⟨p, hp, hc⟩
  · exact hs c hc
  · exact hps p hp c hc

@[simp] theorem inside_functionWord : Inside marks functionWord :=
  fun c hc => .inl (List.all_eq_true.mp rfl c hc)

namespace Inside

theorem not_mem (hu : Inside marks u) (hc : Text.isWordChar c = false) (hm : c ∉ marks) :
    c ∉ u := by
  intro h
  rcases hu c h with hw | h
  · rw [hc] at hw
    contradiction
  · exact hm h

theorem ne (hu : Inside marks u) (hc : c ∈ u) (d : Char) (hd : Text.isWordChar d = false)
    (hm : d ∉ marks) : c ≠ d := by
  rintro rfl
  exact hu.not_mem hd hm hc

theorem filter_blank (hu : Inside marks u) (hb : marks.any Text.isBlank = false) :
    u.filter (!Text.isBlank ·) = u := by
  rw [List.filter_eq_self]
  intro c hc
  rcases hu c hc with hw | hm
  · simp [Text.not_isBlank_of_isWordChar hw]
  · simp [List.any_eq_false.mp hb c hm]

end Inside

theorem isWordChar_of_isDigit (h : c.isDigit = true) : Text.isWordChar c = true := by
  simp only [Char.isDigit, Bool.and_eq_true, decide_eq_true_eq] at h
  have lower : 48 ≤ c.toNat := h.1
  have upper : c.toNat ≤ 57 := h.2
  simp [Text.isWordChar, Text.inRanges, Text.wordRanges, lower, upper]

/-- What the author of a script chooses freely. The three helpers need different names; apart from
that any names may be equal, and each may be a word of the language. -/
structure Layout where
  object : Name
  helper : Kind → Name
  target : Name
  amount : Name
  temporary : Name
  entry : Name
  argument : Name
  key : Text
  order : List Kind
  distinct : ∀ j k, (helper j).text = (helper k).text → j = k
  keyIsWord : key.all Text.isWordChar = true
  complete : order.Perm [.reverse, .slice, .swap]

/-- An operation and the digits that are written where a reversal has no use for an operand. -/
structure Instruction where
  operation : Operation
  spare : Text
  spareDigits : spare.all Char.isDigit = true

namespace Instruction

def numeral (i : Instruction) : Text :=
  if i.operation.kind.takesOperand then Text.decimal i.operation.operand.toNat else i.spare

theorem numeral_isDigit (i : Instruction) : ∀ c ∈ i.numeral, c.isDigit = true := by
  intro c hc
  unfold numeral at hc
  split at hc
  · exact Text.isDigit_of_mem_decimal hc
  · exact List.all_eq_true.mp i.spareDigits c hc

theorem numeral_isWordChar (i : Instruction) : ∀ c ∈ i.numeral, Text.isWordChar c = true :=
  fun c hc => isWordChar_of_isDigit (i.numeral_isDigit c hc)

@[simp] theorem inside_numeral (i : Instruction) : Inside marks i.numeral :=
  fun c hc => .inl (i.numeral_isWordChar c hc)

end Instruction

namespace Layout

def parameters (l : Layout) : Kind → List Name
  | .reverse => [l.target]
  | .slice | .swap => [l.target, l.amount]

def firstElement (l : Layout) : Text := l.target.text ++ "[0]".toList

def otherElement (l : Layout) : Text :=
  l.target.text ++ '[' :: (l.amount.text ++ '%' :: (l.target.text ++ ".length]".toList))

def exchange (l : Layout) : Text :=
  ';' :: (l.firstElement ++ '=' :: (l.otherElement ++
    ';' :: (l.otherElement ++ '=' :: l.temporary.text)))

def work (l : Layout) : Kind → Text
  | .reverse => l.target.text ++ ".reverse()".toList
  | .slice => l.target.text ++ ".splice(0,".toList ++ l.amount.text ++ [')']
  | .swap => ['v', 'a', 'r', ' '] ++ (l.temporary.text ++ '=' :: (l.firstElement ++ l.exchange))

@[simp] theorem inside_firstElement (l : Layout) (h : ['[', ']'] ⊆ marks) :
    Inside marks l.firstElement := by
  simp only [List.cons_subset] at h
  simp +decide [firstElement, h]

@[simp] theorem inside_otherElement (l : Layout) (h : ['[', '%', '.', ']'] ⊆ marks) :
    Inside marks l.otherElement := by
  simp only [List.cons_subset] at h
  simp +decide [otherElement, h]

@[simp] theorem inside_exchange (l : Layout) (h : ['[', '%', '.', ']', '=', ';'] ⊆ marks) :
    Inside marks l.exchange := by
  simp only [List.cons_subset] at h
  simp +decide [exchange, h]

@[simp] theorem inside_work (l : Layout) (k : Kind) (h : plainMarks ⊆ marks) :
    Inside marks (l.work k) := by
  simp only [plainMarks, List.cons_subset] at h
  cases k <;> simp +decide [work, h]

def member (l : Layout) (k : Kind) : Member where
  name := l.helper k
  parameters := l.parameters k
  body := l.work k
  colonFree := (l.inside_work k (List.Subset.refl _)).not_mem rfl (by simp [plainMarks])
  braceFree := (l.inside_work k (List.Subset.refl _)).not_mem rfl (by simp [plainMarks])

theorem inside_objectText (l : Layout) :
    Inside codeMarks (objectText l.object (l.order.map l.member)) := by
  have work : ∀ k, Inside codeMarks (l.work k) := fun k =>
    l.inside_work k (by simp [plainMarks, codeMarks])
  simp +decide [objectText, Member.text, Member.function, member, work]

def call (l : Layout) (i : Instruction) : Text :=
  l.object.text ++ '.' :: ((l.helper i.operation.kind).text ++
    '(' :: (l.argument.text ++ ',' :: (i.numeral ++ [')'])))

def opening (l : Layout) : Text :=
  l.argument.text ++ '=' :: (l.argument.text ++ ".split(".toList)

def ending (l : Layout) : Text :=
  ['r', 'e', 't', 'u', 'r', 'n', ' '] ++ (l.argument.text ++ ".join(".toList)

def body (l : Layout) (is : List Instruction) : Text :=
  Text.join [';'] (('{' :: (l.opening ++ ['"', '"', ')'])) ::
    (is.map l.call ++ [l.ending ++ ['"', '"', ')', '}']]))

def between (l : Layout) (is : List Instruction) : Text :=
  (is.map l.call).flatMap ([';'] ++ ·) ++ ';' :: l.ending

def handing : Text := [';', 'd', '.', 's', 'e', 't', '(']

def use (l : Layout) : Text :=
  '"' :: (l.key ++ '"' :: ',' :: (l.entry.text ++ '(' :: "c));".toList))

def entryText (l : Layout) (is : List Instruction) : Text :=
  l.entry.text ++ '=' :: (functionWord ++ '(' :: (l.argument.text ++
    ')' :: (l.body is ++ (handing ++ l.use))))

def text (l : Layout) (is : List Instruction) : Text :=
  objectText l.object (l.order.map l.member) ++ l.entryText is

theorem body_eq (l : Layout) (is : List Instruction) : l.body is =
    '{' :: (l.opening ++ '"' :: '"' :: ')' :: (l.between is ++ '"' :: '"' :: [')', '}'])) := by
  rw [body, Text.join_ends]
  simp [between]

@[simp] theorem inside_call (l : Layout) (i : Instruction) (h : ['.', '(', ',', ')'] ⊆ marks) :
    Inside marks (l.call i) := by
  simp only [List.cons_subset] at h
  simp +decide [call, h]

@[simp] theorem inside_opening (l : Layout) (h : ['=', '.', '('] ⊆ marks) :
    Inside marks l.opening := by
  simp only [List.cons_subset] at h
  simp +decide [opening, h]

@[simp] theorem inside_ending (l : Layout) (h : [' ', '.', '('] ⊆ marks) :
    Inside marks l.ending := by
  simp only [List.cons_subset] at h
  simp +decide [ending, h]

@[simp] theorem inside_between (l : Layout) (is : List Instruction)
    (h : ['.', '(', ',', ')', ';', ' '] ⊆ marks) : Inside marks (l.between is) := by
  simp only [List.cons_subset] at h
  simp +decide [between, h]

@[simp] theorem inside_use (l : Layout) (h : ['"', ',', '(', ')', ';'] ⊆ marks) :
    Inside marks l.use := by
  simp only [List.cons_subset] at h
  have key : Inside marks l.key := fun c hc => .inl (List.all_eq_true.mp l.keyIsWord c hc)
  simp +decide [use, key, h]

@[simp] theorem inside_entryText (l : Layout) (is : List Instruction)
    (h : ['{', '}', '=', '.', '(', ')', ',', ';', ' ', '"'] ⊆ marks) :
    Inside marks (l.entryText is) := by
  simp only [List.cons_subset] at h
  simp +decide [entryText, body_eq, handing, h]

end Layout
end Descramble.Script
