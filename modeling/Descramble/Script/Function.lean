import Descramble.Fault
import Descramble.Text.Basic
import Descramble.Text.Search

namespace Descramble.Script

def defaultKey : Text := "signature".toList

/-- A quoted key, a comma and the name of the function whose call follows. -/
def entryAt? (key s : Text) : Option Text := do
  let s ← Text.quote? s
  let s ← key.isPrefixOf? s
  let s ← Text.quote? s
  let s ← Text.symbol? ',' s
  let (name, s) ← Text.word? (Text.skipBlank s)
  let _ ← Text.char? '(' s
  return name

/-- The function that descrambles the value stored under the key. -/
def findEntry (key script : Text) : Except Fault Text :=
  match Text.leftmost (entryAt? key) script with
  | some name => .ok name
  | none => .error (.entryNotFound key)

theorem findEntry_eq_ok_iff :
    findEntry key script = .ok name ↔ Text.leftmost (entryAt? key) script = some name := by
  rw [findEntry]
  cases Text.leftmost (entryAt? key) script <;> simp

theorem findEntry_eq_error_iff : findEntry key script = .error fault ↔
    Text.leftmost (entryAt? key) script = none ∧ fault = .entryNotFound key := by
  rw [findEntry]
  cases Text.leftmost (entryAt? key) script <;> simp [eq_comm]

def functionWord : Text := ['f', 'u', 'n', 'c', 't', 'i', 'o', 'n']

/-- `name = function (parameter)`, answered by the text from the opening brace on. -/
def definitionAt? (name s : Text) : Option Text := do
  let s ← name.isPrefixOf? s
  let s ← Text.symbol? '=' s
  let s ← functionWord.isPrefixOf? (Text.skipBlank s)
  let s ← Text.symbol? '(' s
  let (_, s) ← Text.word? (Text.skipBlank s)
  let s ← Text.symbol? ')' s
  let s ← Text.symbol? '{' s
  return '{' :: s

def definition? (name script : Text) : Option Text :=
  Text.leftmostName (definitionAt? name) true script

/-- Braces count in code only; a backslash in a string hides the character behind it. -/
inductive Region
  | code
  | string (mark : Char)
  | escape (mark : Char)
  deriving DecidableEq

def isStringMark (c : Char) : Bool := c == '"' || c == '\'' || c == Char.ofNat 96

def Region.next : Region → Char → Region
  | .code, c => if isStringMark c then .string c else .code
  | .string mark, c => if c = '\\' then .escape mark else if c = mark then .code else .string mark
  | .escape mark, _ => .string mark

def closing? (region : Region) (depth : Nat) : Text → Option Text
  | [] => none
  | c :: s =>
    if region = .code ∧ c = '{' then (closing? .code (depth + 1) s).map (c :: ·)
    else if region = .code ∧ c = '}' then
      match depth with
      | 0 => none
      | 1 => some [c]
      | d + 2 => (closing? .code (d + 1) s).map (c :: ·)
    else (closing? (region.next c) depth s).map (c :: ·)

def block? (s : Text) : Option Text := closing? .code 0 s

/-- A block is a piece of the text, not a copy with changes. -/
theorem closing?_prefix (h : closing? region depth s = some b) : b <+: s := by
  induction s generalizing region depth b with
  | nil => simp [closing?] at h
  | cons c s ih =>
    simp only [closing?] at h
    split at h
    · obtain ⟨b, hb, rfl⟩ := Option.map_eq_some_iff.mp h
      exact List.cons_prefix_cons.mpr ⟨rfl, ih hb⟩
    · split at h
      · split at h
        · cases h
        · simp only [Option.some.injEq] at h
          subst h
          exact ⟨s, rfl⟩
        · obtain ⟨b, hb, rfl⟩ := Option.map_eq_some_iff.mp h
          exact List.cons_prefix_cons.mpr ⟨rfl, ih hb⟩
      · obtain ⟨b, hb, rfl⟩ := Option.map_eq_some_iff.mp h
        exact List.cons_prefix_cons.mpr ⟨rfl, ih hb⟩

theorem closing?_open (depth : Nat) (s : Text) :
    closing? .code depth ('{' :: s) = (closing? .code (depth + 1) s).map ('{' :: ·) := rfl

theorem closing?_close (depth : Nat) (s : Text) :
    closing? .code (depth + 2) ('}' :: s) = (closing? .code (depth + 1) s).map ('}' :: ·) := rfl

theorem closing?_last (s : Text) : closing? .code 1 ('}' :: s) = some ['}'] := rfl

/-- Only braces in code change the depth. -/
theorem closing?_inert (h : region = .code → c ≠ '{' ∧ c ≠ '}') (depth : Nat) (s : Text) :
    closing? region depth (c :: s) = (closing? (region.next c) depth s).map (c :: ·) := by
  have opens : ¬(region = .code ∧ c = '{') := fun brace => (h brace.1).1 brace.2
  have closes : ¬(region = .code ∧ c = '}') := fun brace => (h brace.1).2 brace.2
  simp only [closing?, opens, closes, if_false]

/-- Characters that neither count as braces nor begin a string are part of whatever block is open. -/
theorem closing?_plain (hu : ∀ c ∈ u, isStringMark c = false ∧ c ≠ '{' ∧ c ≠ '}') (depth : Nat)
    (s : Text) : closing? .code depth (u ++ s) = (closing? .code depth s).map (u ++ ·) := by
  induction u with
  | nil => simp
  | cons c u ih =>
    obtain ⟨⟨mark, inert⟩, hu⟩ := List.forall_mem_cons.mp hu
    have next : Region.code.next c = .code := by simp [Region.next, mark]
    rw [List.cons_append, closing?_inert (fun _ => inert), next, ih hu, Option.map_map]
    rfl

/-- So is a string without any character. -/
theorem closing?_emptyString (depth : Nat) (s : Text) :
    closing? .code depth ('"' :: '"' :: s) = (closing? .code depth s).map ('"' :: '"' :: ·) := by
  simp [closing?, Region.next, isStringMark, Function.comp_def]

/-- Where the body of a function ends: at the first closing brace, or at the matching one. -/
inductive Extraction
  | firstBrace
  | balanced
  deriving DecidableEq

namespace Extraction

def name : Extraction → Text
  | firstBrace => "first-brace".toList
  | balanced => "balanced".toList

def ofName? (s : Text) : Option Extraction :=
  [firstBrace, balanced].find? fun e => e.name == s

def cut? : Extraction → Text → Option Text
  | firstBrace => Text.through? '}'
  | balanced => block?

def extract (e : Extraction) (name script : Text) : Except Fault Text :=
  match (definition? name script).bind e.cut? with
  | some body => .ok body
  | none => .error (.bodyNotFound name)

theorem extract_eq_ok_iff {e : Extraction} {name : Text} :
    e.extract name script = .ok body ↔ (definition? name script).bind e.cut? = some body := by
  rw [extract]
  cases (definition? name script).bind e.cut? <;> simp

theorem extract_eq_error_iff {e : Extraction} {name : Text} :
    e.extract name script = .error fault ↔
      (definition? name script).bind e.cut? = none ∧ fault = .bodyNotFound name := by
  rw [extract]
  cases (definition? name script).bind e.cut? <;> simp [eq_comm]

end Extraction
end Descramble.Script
