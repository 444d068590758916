import Descramble.Proofs.Script.Policy
import Descramble.Proofs.Text.Avoids
import Descramble.Proofs.Text.Gap
import Descramble.Proofs.Text.Position

namespace Descramble.Text

/-- Two tables whose ranges lie apart have no character in common. -/
theorem inRanges_apart (apart : ∀ r ∈ table, ∀ r' ∈ table', r.2 < r'.1 ∨ r'.2 < r.1)
    (h : inRanges table c = true) : inRanges table' c = false := by
  obtain ⟨r, hr, inside⟩ := List.any_eq_true.mp h
  rw [inRanges, List.any_eq_false]
  intro r' hr' inside'
  simp only [Bool.and_eq_true, decide_eq_true_eq] at inside inside'
  have := apart r hr r' hr'
  omega

theorem not_isDecimalDigit_of_isBlank (h : isBlank c = true) : isDecimalDigit c = false :=
  inRanges_apart (by decide) h

theorem not_isBlank_of_isDecimalDigit (h : isDecimalDigit c = true) : isBlank c = false :=
  inRanges_apart (by decide) h

/-- A run of digits ends at a gap, and at a mark without a gap in front of it. -/
theorem Gap.not_isDecimalDigit_head (g : Gap) (hc : isDecimalDigit c = false) (s : Text) :
    ∀ d ∈ (g.text ++ c :: s).head?, isDecimalDigit d = false := by
  intro d hd
  cases hg : g.text with
  | nil =>
    simp only [hg, List.nil_append, List.head?_cons, Option.mem_some_iff] at hd
    exact hd ▸ hc
  | cons e gap =>
    simp only [hg, List.cons_append, List.head?_cons, Option.mem_some_iff] at hd
    exact hd ▸ not_isDecimalDigit_of_isBlank (g.forall_mem e (by simp [hg]))

end Descramble.Text

namespace Descramble.Script

open Text (Gap Name)

structure OperandForm where
  beforeName : Gap
  name : Name
  beforeComma : Gap
  beforeDigits : Gap
  digits : Text
  behindDigits : Gap
  nonempty : digits ≠ []
  allDigits : digits.all Text.isDecimalDigit = true

namespace OperandForm

def inside (l : OperandForm) : Text :=
  l.beforeName.text ++ (l.name.text ++ (l.beforeComma.text ++ ',' ::
    (l.beforeDigits.text ++ (l.digits ++ (l.behindDigits.text ++ [')'])))))

theorem isDecimalDigit (l : OperandForm) : ∀ c ∈ l.digits, Text.isDecimalDigit c = true :=
  List.all_eq_true.mp l.allDigits

theorem skipBlank_digits (l : OperandForm) (s : Text) :
    Text.skipBlank (l.beforeDigits.text ++ (l.digits ++ s)) = l.digits ++ s := by
  rw [Text.skipBlank_append l.beforeDigits.forall_mem]
  apply Text.skipBlank_eq_self
  intro c first
  rw [List.head?_append_of_ne_nil _ l.nonempty] at first
  exact Text.not_isBlank_of_isDecimalDigit (l.isDecimalDigit c (List.mem_of_mem_head? first))

/-- The list is read to its end with any text behind it. -/
theorem operandAt?_inside (l : OperandForm) (rest : Text) :
    operandAt? ('(' :: (l.inside ++ rest)) = some ⟨l.digits, l.inside ++ rest⟩ := by
  have word := l.beforeName.word?_name l.name
    (l.beforeComma.not_isWordChar_head (c := ',') rfl
      (l.beforeDigits.text ++ (l.digits ++ (l.behindDigits.text ++ ')' :: rest))))
  have written : l.digits.isEmpty = false := by simpa using l.nonempty
  have kept : Text.Avoids (!Text.isDecimalDigit ·) l.digits := by
    intro c hc
    simp [l.isDecimalDigit c hc]
  have stop : ∀ c ∈ (l.behindDigits.text ++ ')' :: rest).head?,
      (!Text.isDecimalDigit c) = true := by
    intro c first
    simp [l.behindDigits.not_isDecimalDigit_head (c := ')') rfl rest c first]
  have digits := kept.takeWhile_append stop
  have behind := kept.dropWhile_append stop
  simp only [Bool.not_not] at digits behind
  simp only [inside, List.append_assoc, List.cons_append, List.nil_append, operandAt?, Text.char?,
    if_true, Option.bind_eq_bind, Option.bind_some, word,
    l.beforeComma.symbol?_mark (c := ',') rfl, l.skipBlank_digits, digits, behind, written,
    Bool.false_eq_true, if_false, l.behindDigits.symbol?_mark (c := ')') rfl, Option.pure_def]

end OperandForm

/-- A list of a name and a number is read where it is written, and only there. -/
theorem operandAt?_eq_some_iff : operandAt? s = some o ↔ ∃ (l : OperandForm) (rest : Text),
    s = '(' :: (l.inside ++ rest) ∧ o = ⟨l.digits, l.inside ++ rest⟩ := by
  constructor
  · intro found
    simp only [operandAt?, Option.bind_eq_bind, Option.bind_eq_some_iff, Prod.exists] at found
    obtain ⟨arguments, h₁, w, s₂, h₂, s₃, h₃, found⟩ := found
    obtain ⟨beforeName, name, rfl, rfl⟩ := Text.word?_exists_gap h₂
    obtain ⟨beforeComma, rfl⟩ := Text.symbol?_exists_gap h₃
    obtain ⟨beforeDigits, split⟩ := Text.skipBlank_split s₃
    have parts : (Text.skipBlank s₃).takeWhile Text.isDecimalDigit ++
        (Text.skipBlank s₃).dropWhile Text.isDecimalDigit = Text.skipBlank s₃ :=
      List.takeWhile_append_dropWhile
    have digits : ((Text.skipBlank s₃).takeWhile Text.isDecimalDigit).all
        Text.isDecimalDigit = true := List.all_takeWhile
    generalize (Text.skipBlank s₃).takeWhile Text.isDecimalDigit = ds at found parts digits
    generalize (Text.skipBlank s₃).dropWhile Text.isDecimalDigit = behind at found parts
    split at found
    · cases found
    · next written =>
      simp only [Option.bind_eq_some_iff, Option.pure_def, Option.some.injEq] at found
      obtain ⟨rest, h₄, rfl⟩ := found
      obtain ⟨behindDigits, rfl⟩ := Text.symbol?_exists_gap h₄
      rw [← parts] at split
      rw [Text.char?_eq_some h₁, split]
      exact ⟨⟨beforeName, name, beforeComma, beforeDigits, ds, behindDigits, by simpa using written,
        digits⟩, rest, by simp [OperandForm.inside], by simp [OperandForm.inside]⟩
  · intro written
    obtain ⟨l, rest, rfl, rfl⟩ := written
    exact l.operandAt?_inside rest

/-- A member call is read where it is written, and only there. -/
theorem callAt?_eq_some_iff : callAt? s = some call ↔ ∃ object helper : Name,
    s = object.text ++ '.' :: (helper.text ++ '(' :: call.arguments) ∧
      call.helper = helper.text := by
  constructor
  · intro found
    simp only [callAt?, Option.bind_eq_bind, Option.bind_eq_some_iff, Prod.exists,
      Option.pure_def, Option.some.injEq] at found
    obtain ⟨object, s₁, h₁, s₂, h₂, helper, s₃, h₃, arguments, h₄, rfl⟩ := found
    obtain ⟨rfl, nonempty, isWord, -⟩ := Text.word?_eq_some h₁
    rw [Text.char?_eq_some h₂]
    obtain ⟨rfl, nonempty', isWord', -⟩ := Text.word?_eq_some h₃
    rw [Text.char?_eq_some h₄]
    exact ⟨⟨object, nonempty, List.all_eq_true.mpr isWord⟩,
      ⟨helper, nonempty', List.all_eq_true.mpr isWord'⟩, rfl, rfl⟩
  · intro written
    obtain ⟨object, helper, rfl, named⟩ := written
    obtain ⟨_, arguments⟩ := call
    simp only at named
    simp only [named, callAt?, object.word?_append (c := '.') rfl, Text.char?, if_true,
      helper.word?_append (c := '(') rfl, Option.bind_eq_bind, Option.bind_some, Option.pure_def]

theorem call?_split (h : call? s = some call) : ∃ front, s = front ++ '(' :: call.arguments := by
  obtain ⟨before, t, rfl, here, -⟩ := Text.leftmost_eq_some.mp h
  obtain ⟨object, helper, rfl, -⟩ := callAt?_eq_some_iff.mp here
  exact ⟨before ++ (object.text ++ '.' :: helper.text), by simp⟩

/-- The arguments of the call are a name and a number, and no such list opens in front of them. -/
structure OwnListFirst (s : Text) (call : Call) : Prop where
  written : ∃ (l : OperandForm) (rest : Text), call.arguments = l.inside ++ rest
  first : ∀ (before : Text) (l : OperandForm) (rest : Text),
    s = before ++ '(' :: (l.inside ++ rest) → (l.inside ++ rest).length ≤ call.arguments.length

/-- The operand is that of the call exactly if no list of its kind opens in front of the call's own.
-/
theorem arguments_eq_iff (called : call? s = some call) (operand : operand? s = some o) :
    o.arguments = call.arguments ↔ OwnListFirst s call := by
  obtain ⟨front, own⟩ := call?_split called
  obtain ⟨before, t, split, here, least⟩ := Text.leftmost_first operand
  obtain ⟨l, rest, rfl, rfl⟩ := operandAt?_eq_some_iff.mp here
  have found : ∀ (l' : OperandForm) (rest' : Text),
      operandAt? ('(' :: (l'.inside ++ rest')) ≠ none := by
    intro l' rest'
    rw [l'.operandAt?_inside]
    exact Option.some_ne_none _
  have size := congrArg List.length split
  have ownSize := congrArg List.length own
  simp only [List.length_append, List.length_cons] at size ownSize
  constructor
  · intro same
    refine ⟨⟨l, rest, same.symm⟩, ?_⟩
    intro before' l' rest' split'
    have behind := least before' _ split' (found l' rest')
    have size' := congrArg List.length split'
    have sameSize := congrArg List.length same
    simp only [List.length_append, List.length_cons] at size' sameSize ⊢
    omega
  · intro own
    obtain ⟨⟨l', rest', written⟩, first⟩ := own
    have behind := least front ('(' :: call.arguments) own (written ▸ found l' rest')
    have ahead := first before l rest split
    simp only [List.length_append] at ahead
    have together : before.length = front.length := by omega
    have tails := (List.append_inj (split.symm.trans own) together).2
    exact (List.cons.inj tails).2

/-- The number that is read is the one of the first list of a name and a number that the statement
has. These are the call's own arguments only if they are such a list and no other opens in front of
them. -/
theorem operand_of_own_list (policy : Policy) (called : call? s = some call)
    (bound : Bindings.kindOf? b call.helper = some kind)
    (scrambles : kind = .slice ∨ kind = .swap) (operand : operand? s = some o) :
    operation? policy b s =
      (match readDigits 0 o.digits, policy with
        | .ok n, _ => .ok (some (.ofKind kind (.ofNat n)))
        | .error _, .ignore => .ok (some (.ofKind kind 0))
        | .error cause, .failFast => .error (.badNumeral cause)) ∧
    (o.arguments = call.arguments ↔ OwnListFirst s call) := by
  refine ⟨?_, arguments_eq_iff called operand⟩
  have helper : calledHelper? s = some call.helper := by rw [calledHelper?, called, Option.map_some]
  simp only [operation?, helper, Option.bind_some, bound, takesOperand_iff.mpr scrambles, if_true,
    readOperand, operand]
  cases readDigits 0 o.digits <;> cases policy <;> rfl

/-- A call whose arguments are no name and number may stand in front. -/
theorem operand_of_own_list_plainCall :
    let s := "f(b,c),O.s(a,1)".toList
    let b := Bindings.bind {} "s".toList .slice
    let call : Call := ⟨"s".toList, "a,1)".toList⟩
    call? s = some call ∧ operation? .failFast b s = .ok (some (.slice 1)) ∧
      OwnListFirst s call := by
  intro s b call
  have called : call? s = some call := by decide
  have operand : operand? s = some ⟨"1".toList, "a,1)".toList⟩ := by decide
  have own := operand_of_own_list .failFast called (b := b) rfl (.inl rfl) operand
  exact ⟨called, own.1, own.2.mp rfl⟩

/-- The operand of one call is taken from the arguments of another that stands in front of it. -/
theorem operand_of_foreign_list :
    let s := "f(b,9),O.s(a,1)".toList
    let b := Bindings.bind {} "s".toList .slice
    call? s = some ⟨"s".toList, "a,1)".toList⟩ ∧
    operand? s = some ⟨"9".toList, "b,9),O.s(a,1)".toList⟩ ∧
    "b,9),O.s(a,1)".toList ≠ "a,1)".toList ∧
    operation? .ignore b s = .ok (some (.slice 9)) ∧
    operation? .failFast b s = .ok (some (.slice 9)) := by
  decide

end Descramble.Script
