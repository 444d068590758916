import Descramble.Json.Printer
import Descramble.Proofs.Json.Value

namespace Descramble.Json

/-- Values whose text keeps all of them: no floats, whole numbers of 64 bits, and lists and objects
that nest at most to the given depth. -/
inductive Exact : Nat → Value → Prop
  | null : Exact depth .null
  | boolean (b : Bool) : Exact depth (.boolean b)
  | natural (small : n < UInt64.size) : Exact depth (.number (.natural n))
  | negative (nonzero : 0 < n) (small : n ≤ signWeight) : Exact depth (.number (.negative n))
  | string (s : Text) : Exact depth (.string s)
  | list (items : ∀ v ∈ vs, Exact depth v) : Exact (depth + 1) (.list vs)
  | object (members : ∀ m ∈ ms, Exact depth m.2) : Exact (depth + 1) (.object ms)

variable {depth : Nat} {v : Value} {vs : List Value} {ms : List (Text × Value)}

theorem hexNumber?_hexPair :
    ∀ n < 32, hexNumber? (['0', '0'] ++ hexPair n) = some n := by decide

/-- The escape chosen for a character stands for that character. -/
theorem character_escaped (c : Char) : Character c (escaped c) := by
  rw [escaped]
  split
  · next special =>
    obtain rfl | rfl := special
    · exact .short (by decide)
    · exact .short (by decide)
  · next special =>
    obtain ⟨quote, backslash⟩ := not_or.mp special
    split
    · next same => exact same ▸ .short (by decide)
    split
    · next same => exact same ▸ .short (by decide)
    split
    · next same => exact same ▸ .short (by decide)
    split
    · next same => exact same ▸ .short (by decide)
    split
    · next same => exact same ▸ .short (by decide)
    split
    · next control => exact .code rfl (hexNumber?_hexPair c.toNat control)
    · next visible => exact .plain quote backslash (Nat.not_lt.mp visible)

theorem spelled_escaped (s : Text) : Spelled s (s.flatMap escaped) := by
  induction s with
  | nil => exact .nil
  | cons c s ih => exact .cons (character_escaped c) ih

theorem written_stringText (s : Text) : Written depth (.string s) (stringText s) :=
  .string (spelled_escaped s)

def Space.line (indent : Nat) : Space where
  text := newline indent
  passes := by simp [newline, Json.isSpace]

def Space.blank : Space := ⟨[' '], rfl⟩

theorem writtenItems_pretty (items : ∀ v ∈ vs, ∀ indent, Written depth v (pretty indent v))
    (indent : Nat) :
    WrittenItems depth vs (prettyItems (indent + 1) vs ++ newline indent ++ [']']) := by
  induction vs with
  | nil => exact .nil (.line indent)
  | cons v vs ih =>
    have first := items v List.mem_cons_self (indent + 1)
    have rest := ih fun w hw => items w (List.mem_cons_of_mem v hw)
    have whole := WrittenItems.cons .nothing (.line (indent + 1)) first rest
    simpa [prettyItems, Text.Run.nothing, Space.line] using whole

theorem writtenMembers_pretty (members : ∀ m ∈ ms, ∀ indent, Written depth m.2 (pretty indent m.2))
    (indent : Nat) :
    WrittenMembers depth ms (prettyMembers (indent + 1) ms ++ newline indent ++ ['}']) := by
  induction ms with
  | nil => exact .nil (.line indent)
  | cons m ms ih =>
    have first := members m List.mem_cons_self (indent + 1)
    have rest := ih fun w hw => members w (List.mem_cons_of_mem m hw)
    have whole := WrittenMembers.cons .nothing (.line (indent + 1)) .nothing .blank
      (spelled_escaped m.1) first rest
    simpa [prettyMembers, stringText, memberText, Text.Run.nothing, Space.blank, Space.line]
      using whole

/-- The printed text of a value is one way to write it. -/
theorem written_pretty (h : Exact depth v) (indent : Nat) : Written depth v (pretty indent v) := by
  induction h generalizing indent with
  | null => exact .null
  | boolean b =>
    cases b with
    | false => exact .false
    | true => exact .true
  | natural small => exact .natural small
  | negative nonzero small => exact .negative nonzero small
  | string s => exact written_stringText s
  | @list vs depth items ih =>
    cases vs with
    | nil => exact .noItems .nothing
    | cons v vs =>
      have rest := writtenItems_pretty (fun w hw => ih w (List.mem_cons_of_mem v hw)) indent
      have whole := Written.list (.line (indent + 1)) (ih v List.mem_cons_self (indent + 1)) rest
      simpa [pretty, Space.line] using whole
  | @object ms depth members ih =>
    cases ms with
    | nil => exact .noMembers .nothing
    | cons m ms =>
      have rest := writtenMembers_pretty (fun w hw => ih w (List.mem_cons_of_mem m hw)) indent
      have whole := Written.object (.line (indent + 1)) .nothing .blank (spelled_escaped m.1)
        (ih m List.mem_cons_self (indent + 1)) rest
      simpa [pretty, stringText, memberText, Text.Run.nothing, Space.blank, Space.line]
        using whole

end Descramble.Json
