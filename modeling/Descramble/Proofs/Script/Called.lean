import Descramble.Proofs.Script.Argument
import Descramble.Proofs.Text.Avoids

namespace Descramble.Script

open Text (First Name)

variable {s helper : Text} {call : Call} {i : Nat}

/-- A call that is written somewhere. In front of the helper's name stands a dot, so that the name
is the whole run of its characters in front of the parenthesis. -/
structure MemberCall where
  before : Text
  owner : Char
  helper : Name
  behind : Text
  ownerIsWord : Text.isWordChar owner = true

namespace MemberCall

def front (m : MemberCall) : Text := m.before ++ m.owner :: '.' :: m.helper.text

def text (m : MemberCall) : Text := m.front ++ '(' :: m.behind

/-- From the last character in front of the dot on, the call is read. -/
theorem callAt?_owner (m : MemberCall) :
    callAt? (m.owner :: '.' :: (m.helper.text ++ '(' :: m.behind)) =
      some ⟨m.helper.text, m.behind⟩ := by
  have object : [m.owner].all Text.isWordChar = true := by simpa using m.ownerIsWord
  exact callAt?_eq_some_iff.mpr ⟨⟨[m.owner], List.cons_ne_nil _ _, object⟩, m.helper, rfl, rfl⟩

theorem text_eq (m : MemberCall) :
    m.text = m.before ++ m.owner :: '.' :: (m.helper.text ++ '(' :: m.behind) := by
  simp [text, front]

/-- A name ends at the parenthesis and begins behind its last dot, so there is only one. -/
theorem helper_unique {m m' : MemberCall} (same : m.front = m'.front) :
    m.helper.text = m'.helper.text := by
  have undotted (n : Name) : '.' ∉ n.text := fun dot => absurd (n.forall_mem '.' dot) (by decide)
  have cut (m : MemberCall) :
      Text.splitLast? '.' m.front = some (m.before ++ [m.owner], m.helper.text) := by
    rw [← Text.splitLast?_append (undotted m.helper), front, List.append_assoc,
      List.singleton_append]
  exact (Prod.mk.inj (Option.some.inj ((cut m).symm.trans (same ▸ cut m')))).2

end MemberCall

/-- At this position opens the parenthesis of a call of the helper. -/
def OpensCall (s : Text) (i : Nat) (helper : Text) : Prop :=
  ∃ m : MemberCall, m.text = s ∧ m.front.length = i ∧ m.helper.text = helper

theorem OpensCall.unique (h : OpensCall s i a) (h' : OpensCall s i b) : a = b := by
  obtain ⟨m, text, rfl, rfl⟩ := h
  obtain ⟨m', text', position, rfl⟩ := h'
  exact MemberCall.helper_unique (List.append_inj (text.trans text'.symm) position.symm).1

theorem not_mem_member (object helper : Name) : '(' ∉ object.text ++ '.' :: helper.text := by
  intro mem
  rcases List.mem_append.mp mem with mem | mem
  · exact absurd (object.forall_mem _ mem) (by decide)
  · rcases List.mem_cons.mp mem with dot | mem
    · cases dot
    · exact absurd (helper.forall_mem _ mem) (by decide)

/-- The call that begins first is the one whose parenthesis opens first. -/
theorem call?_first (h : call? s = some call) : First (OpensCall s) call.helper := by
  obtain ⟨front, t, rfl, here, least⟩ := Text.leftmost_first h
  obtain ⟨object, helper, rfl, named⟩ := callAt?_eq_some_iff.mp here
  -- The whole of the object is read, but a call may be seen to begin at its last character.
  obtain nothing | ⟨w, owner, split⟩ := List.eq_nil_or_concat object.text
  · exact absurd nothing object.nonempty
  rw [List.concat_eq_append] at split
  have isWord : Text.isWordChar owner = true := object.forall_mem owner (by simp [split])
  let m : MemberCall := ⟨front ++ w, owner, helper, call.arguments, isWord⟩
  have whole : m.front = front ++ (object.text ++ '.' :: helper.text) := by
    simp [m, MemberCall.front, split]
  refine ⟨m.front.length, ⟨m, by simp [MemberCall.text, whole, m], rfl, named.symm⟩, ?_⟩
  rintro _ early _ ⟨m', text, rfl, rfl⟩
  have begins : front.length ≤ m'.before.length :=
    least _ _ (text ▸ m'.text_eq) (m'.callAt?_owner ▸ Option.some_ne_none _)
  have parted : front ++ (object.text ++ '.' :: helper.text ++ '(' :: call.arguments) =
      m'.before ++ (m'.owner :: '.' :: m'.helper.text ++ '(' :: m'.behind) := by
    simpa [MemberCall.text, MemberCall.front] using text.symm
  have late : m.front.length ≤ m'.front.length :=
    whole ▸ Text.length_le_of_mark parted (not_mem_member object helper) begins
  exact absurd early (Nat.not_lt_of_le late)

theorem call?_ne_none (m : MemberCall) : call? m.text ≠ none := by
  intro uncalled
  have missed := Text.leftmost_eq_none.mp uncalled _ (m.text_eq ▸ List.suffix_append m.before _)
  rw [m.callAt?_owner] at missed
  cases missed

/-- The helper that is called is that of the first call that opens. -/
theorem calledHelper?_eq_some_iff :
    calledHelper? s = some helper ↔ First (OpensCall s) helper := by
  constructor
  · intro called
    obtain ⟨call, found, rfl⟩ := Option.map_eq_some_iff.mp called
    exact call?_first found
  · intro first
    obtain ⟨i, ⟨m, rfl, -, -⟩, -⟩ := id first
    obtain ⟨call, found⟩ := Option.ne_none_iff_exists'.mp (call?_ne_none m)
    have same := First.unique (fun _ _ _ h h' => h.unique h') (call?_first found) first
    rw [calledHelper?, found, Option.map_some, same]

/-- A statement calls a helper exactly if the parenthesis of a call opens in it somewhere, and the
helper is the one in front of the first such parenthesis. -/
theorem calledHelper?_exact (s : Text) :
    ((∃ helper, calledHelper? s = some helper) ↔ ∃ i helper, OpensCall s i helper) ∧
    (∀ helper, calledHelper? s = some helper ↔ First (OpensCall s) helper) ∧
    (calledHelper? s = none ↔ ∀ i helper, ¬ OpensCall s i helper) := by
  have called : (∃ helper, calledHelper? s = some helper) ↔ ∃ i helper, OpensCall s i helper := by
    simp only [calledHelper?_eq_some_iff, Text.exists_first_iff]
  refine ⟨called, fun _ => calledHelper?_eq_some_iff, ?_⟩
  rw [Option.eq_none_iff_forall_ne_some, ← not_exists, called]
  simp only [not_exists]

/-- In a chain the first parenthesis opens behind the last member. -/
example : calledHelper? "f(.g(a.b.c(d.e(".toList = some "c".toList := by decide

end Descramble.Script
