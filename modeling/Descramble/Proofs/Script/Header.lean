import Descramble.Proofs.Script.Agreement
import Descramble.Proofs.Script.Form
import Descramble.Proofs.Text.Position

namespace Descramble.Script

/-- From this position of the script stand the quoted key, a comma, the name of a function and the
parenthesis that opens its call. -/
def EntryAt (key script : Text) (i : Nat) (name : Text) : Prop :=
  ∃ (e : EntryForm) (rest : Text),
    script.drop i = e.opening :: (key ++ (e.link ++ '(' :: rest)) ∧ name = e.name.text

theorem entryAt?_drop_iff :
    entryAt? key (script.drop i) = some name ↔ EntryAt key script i name := entryAt?_eq_some_iff

/-- A function is found exactly if the key is written in front of the call of one somewhere, and
then it is the one of the first such place, whatever uses of the key stand in front of it. Else the
fault names the key. -/
theorem findEntry_first (key script : Text) :
    (∀ name, findEntry key script = .ok name ↔ Text.First (EntryAt key script) name) ∧
    ((∃ name, findEntry key script = .ok name) ↔ ∃ i name, EntryAt key script i name) ∧
    ∀ fault, findEntry key script = .error fault ↔
      (∀ i name, ¬ EntryAt key script i name) ∧ fault = .entryNotFound key := by
  have found : ∀ name, findEntry key script = .ok name ↔ Text.First (EntryAt key script) name := by
    intro name
    rw [findEntry_eq_ok_iff, Text.leftmost_eq_some_iff_first]
    simp only [entryAt?_drop_iff]
  refine ⟨found, ?_, ?_⟩
  · simp only [found, Text.exists_first_iff]
  · intro fault
    rw [findEntry_eq_error_iff, Text.leftmost_eq_none_iff_forall]
    simp only [ne_eq, entryAt?_drop_iff]

/-- The key is a quote here. It stands between quotes twice, once in front of a number. -/
example : findEntry ['"'] "d('\"',1);d.set(\"\"' , f(c))".toList = .ok ['f'] := by decide

/-- From this position of the script stands the header of a function of one parameter under the
whole name, not under the end of a longer one or of a member's. `inside` is the text behind its
brace. -/
def HeaderAt (name script : Text) (i : Nat) (inside : Text) : Prop :=
  (i = 0 ∨ ∃ c, script[i - 1]? = some c ∧ Text.isWordChar c = false ∧ c ≠ '.') ∧
    ∃ header : HeaderForm, script.drop i = header.front name ++ '{' :: inside

theorem definitionAt?_drop_iff :
    Text.admits true (script.take i) = true ∧ definitionAt? name (script.drop i) = some r ↔
      ∃ inside, HeaderAt name script i inside ∧ '{' :: inside = r := by
  have within : ∀ (header : HeaderForm) inside,
      script.drop i = header.front name ++ '{' :: inside → i ≤ script.length := by
    intro header inside written
    have more : script.drop i ≠ [] := by simp [written]
    exact Nat.le_of_lt (List.length_lt_of_drop_ne_nil more)
  constructor
  · intro found
    obtain ⟨place, here⟩ := found
    obtain ⟨header, inside, written, rfl⟩ := definitionAt?_eq_some_iff.mp here
    have place := (Text.admits_take_iff (within header inside written)).mp place
    exact ⟨inside, ⟨place, header, written⟩, rfl⟩
  · intro found
    obtain ⟨inside, ⟨place, header, written⟩, rfl⟩ := found
    have place := (Text.admits_take_iff (within header inside written)).mpr place
    exact ⟨place, definitionAt?_eq_some_iff.mpr ⟨header, inside, written, rfl⟩⟩

/-- A definition is cut off at the brace of the first header. -/
theorem definition?_eq_some_iff : definition? name script = some r ↔
    ∃ inside, Text.First (HeaderAt name script) inside ∧ '{' :: inside = r := by
  rw [definition?, Text.leftmostName_eq_some_iff_first, ← Text.first_map_iff]
  simp only [definitionAt?_drop_iff]

/-- A function is missing exactly if no header for it stands anywhere. -/
theorem definition?_eq_none_iff :
    definition? name script = none ↔ ∀ i inside, ¬ HeaderAt name script i inside := by
  have any : (∃ inside, Text.First (HeaderAt name script) inside) ↔
      ∃ i inside, HeaderAt name script i inside := Text.exists_first_iff
  rw [Option.eq_none_iff_forall_ne_some]
  constructor
  · intro absent i inside here
    obtain ⟨inside, first⟩ := any.mpr ⟨i, inside, here⟩
    exact absent _ (definition?_eq_some_iff.mpr ⟨inside, first, rfl⟩)
  · intro headless r found
    obtain ⟨inside, first, -⟩ := definition?_eq_some_iff.mp found
    obtain ⟨i, inside, here⟩ := any.mp ⟨inside, first⟩
    exact headless i inside here

namespace Extraction

/-- What a body is that begins with the brace in front of `inside`. -/
def Delimits : Extraction → Text → Text → Prop
  | firstBrace, inside, body =>
    ∃ u behind, inside = u ++ '}' :: behind ∧ '}' ∉ u ∧ body = '{' :: (u ++ ['}'])
  | balanced, inside, body => body <+: '{' :: inside ∧ Block body

/-- Either way cuts out exactly what it is said to delimit. -/
theorem cut?_eq_some_iff {e : Extraction} :
    e.cut? ('{' :: inside) = some body ↔ e.Delimits inside body := by
  cases e with
  | balanced => exact block?_eq_some_iff
  | firstBrace =>
    rw [cut?, Text.through?_eq_some_iff]
    constructor
    · intro cut
      obtain ⟨u, behind, split, outside, rfl⟩ := cut
      cases u with
      | nil => simp at split
      | cons c u =>
        obtain ⟨rfl, rest⟩ := List.cons.inj split
        exact ⟨u, behind, rest, fun h => outside (List.mem_cons_of_mem _ h), rfl⟩
    · intro body
      obtain ⟨u, behind, rfl, outside, rfl⟩ := body
      exact ⟨'{' :: u, behind, rfl, by simpa using outside, rfl⟩

theorem cut?_eq_none_iff {e : Extraction} :
    e.cut? ('{' :: inside) = none ↔ ∀ body, ¬ e.Delimits inside body := by
  simp only [Option.eq_none_iff_forall_ne_some, ne_eq, cut?_eq_some_iff]

theorem exists_firstBrace_iff : (∃ body, firstBrace.Delimits inside body) ↔ '}' ∈ inside := by
  constructor
  · intro found
    obtain ⟨body, u, behind, rfl, -, -⟩ := found
    simp
  · intro closes
    obtain ⟨u, behind, rfl, outside⟩ := List.eq_append_cons_of_mem closes
    exact ⟨'{' :: (u ++ ['}']), u, behind, rfl, outside, rfl⟩

/-- A body is found exactly at the first header of the script, whatever longer names, members and
functions of several parameters stand in front of it, and it begins with the brace of that header.
It reaches to the first brace that closes, and is missing only if there is none, or to the matching
one. There is a first header as soon as there is any. -/
theorem extract_first_header (name script : Text) :
    ((∃ inside, Text.First (HeaderAt name script) inside) ↔
      ∃ i inside, HeaderAt name script i inside) ∧
    (∀ (e : Extraction) body, e.extract name script = .ok body ↔
      ∃ inside, Text.First (HeaderAt name script) inside ∧ e.Delimits inside body) ∧
    (∀ (e : Extraction) fault, e.extract name script = .error fault ↔
      ((∀ i inside, ¬ HeaderAt name script i inside) ∨
        ∃ inside, Text.First (HeaderAt name script) inside ∧ ∀ body, ¬ e.Delimits inside body) ∧
      fault = .bodyNotFound name) ∧
    ∀ inside, (∃ body, firstBrace.Delimits inside body) ↔ '}' ∈ inside := by
  refine ⟨Text.exists_first_iff, ?_, ?_, fun inside => exists_firstBrace_iff⟩
  · intro e body
    rw [extract_eq_ok_iff, Option.bind_eq_some_iff]
    constructor
    · intro found
      obtain ⟨r, start, cut⟩ := found
      obtain ⟨inside, first, rfl⟩ := definition?_eq_some_iff.mp start
      exact ⟨inside, first, cut?_eq_some_iff.mp cut⟩
    · intro found
      obtain ⟨inside, first, body⟩ := found
      exact ⟨_, definition?_eq_some_iff.mpr ⟨inside, first, rfl⟩, cut?_eq_some_iff.mpr body⟩
  · intro e fault
    rw [extract_eq_error_iff]
    refine and_congr_left fun _ => ?_
    constructor
    · intro missed
      cases start : definition? name script with
      | none => exact .inl (definition?_eq_none_iff.mp start)
      | some r =>
        obtain ⟨inside, first, rfl⟩ := definition?_eq_some_iff.mp start
        rw [start, Option.bind_some] at missed
        exact .inr ⟨inside, first, cut?_eq_none_iff.mp missed⟩
    · intro missed
      obtain headless | ⟨inside, first, endless⟩ := missed
      · rw [definition?_eq_none_iff.mpr headless, Option.bind_none]
      · rw [definition?_eq_some_iff.mpr ⟨inside, first, rfl⟩, Option.bind_some]
        exact cut?_eq_none_iff.mpr endless

/-- A longer name, a member and two parameters stand in front. -/
example : balanced.extract ['f']
    ("af=function(a)\x7b\x7d;h.f=function(a)\x7b\x7d;f=function(a,b)\x7b\x7d;".toList ++
      "f = function ( $ ) \x7b\x7b1\x7d\x7d".toList) =
    .ok "\x7b\x7b1\x7d\x7d".toList := by decide

end Extraction
end Descramble.Script
