import Mathlib.Logic.ExistsUnique
import Descramble.Proofs.Script.Form
import Descramble.Proofs.Script.Nesting
import Descramble.Proofs.Text.Extension
import Descramble.Script.Function

namespace Descramble.Script

/-- Complete strings, and characters that begin none, in any order. -/
inductive Unquoted : Text → Prop
  | nil : Unquoted []
  | string (real : isStringMark mark = true) (content : Quoted mark s) (rest : Unquoted t) :
    Unquoted (mark :: (s ++ mark :: t))
  | plain (mark : isStringMark c = false) (rest : Unquoted s) : Unquoted (c :: s)

/-- No string is open at the position: those that begin in front of it are complete there. -/
def Outside (s : Text) (i : Nat) : Prop := Unquoted (s.take i)

namespace Region

def after (region : Region) (s : Text) : Region := s.foldl Region.next region

/-- How many opening braces of the text stand in code. -/
def openings (region : Region) : Text → Nat
  | [] => 0
  | c :: s => (if region = .code ∧ c = '{' then 1 else 0) + (region.next c).openings s

@[simp] theorem after_nil (region : Region) : region.after [] = region := rfl

@[simp] theorem after_cons (region : Region) (c : Char) (s : Text) :
    region.after (c :: s) = (region.next c).after s := rfl

theorem openings_append (region : Region) (s t : Text) :
    region.openings (s ++ t) = region.openings s + (region.after s).openings t := by
  induction s generalizing region with
  | nil => simp [openings]
  | cons c s ih => simp [openings, ih, Nat.add_assoc]

/-- No block opens in a text exactly if each of its opening braces stands in a string. -/
theorem openings_eq_zero_iff {region : Region} : region.openings s = 0 ↔
    ∀ i, s[i]? = some '{' → region.after (s.take i) ≠ .code := by
  induction s generalizing region with
  | nil => simp [openings]
  | cons c s ih =>
    rw [openings, Nat.add_eq_zero_iff, ih]
    constructor
    · intro both i brace
      obtain ⟨here, later⟩ := both
      cases i with
      | zero =>
        intro code
        simp only [List.getElem?_cons_zero, Option.some.injEq] at brace
        simp [brace, show region = .code from code] at here
      | succ i => exact later i (by simpa using brace)
    · intro inert
      refine ⟨?_, ?_⟩
      · rw [if_neg]
        intro opens
        obtain ⟨code, rfl⟩ := opens
        exact inert 0 rfl code
      · intro i brace
        exact inert (i + 1) (by simpa using brace)

/-- What ends a string or an escape that has begun, and then leaves no string open. -/
def Ends : Region → Text → Prop
  | .code, t => Unquoted t
  | .string mark, t => ∃ s r, t = s ++ mark :: r ∧ Quoted mark s ∧ Unquoted r
  | .escape mark, t => ∃ c s r, t = c :: (s ++ mark :: r) ∧ Quoted mark s ∧ Unquoted r

/-- Where no string is open behind a text, it has ended the one that was open before. -/
theorem ends_of_after {region : Region} (h : region.after s = .code) : region.Ends s := by
  induction s generalizing region with
  | nil =>
    rw [after_nil] at h
    subst h
    exact .nil
  | cons c s ih =>
    have rest := ih h
    cases region with
    | code =>
      rw [next] at rest
      split at rest
      · next real =>
        obtain ⟨u, r, rfl, content, rest⟩ := rest
        exact .string real content rest
      · next plain => exact .plain (by simpa using plain) rest
    | string mark =>
      rw [next] at rest
      split at rest
      · next hides =>
        obtain ⟨d, u, r, rfl, content, rest⟩ := rest
        exact ⟨'\\' :: d :: u, r, by rw [hides]; rfl, .hidden d content, rest⟩
      · next shown =>
        split at rest
        · next ends => exact ⟨[], s, by rw [ends]; rfl, .nil, rest⟩
        · next other =>
          obtain ⟨u, r, rfl, content, rest⟩ := rest
          exact ⟨c :: u, r, rfl, .plain other shown content, rest⟩
    | escape mark =>
      obtain ⟨u, r, rfl, content, rest⟩ := rest
      exact ⟨c, u, r, rfl, content, rest⟩

end Region

theorem Quoted.after (h : Quoted mark s) (real : isStringMark mark = true) (t : Text) :
    Region.after (.string mark) (s ++ mark :: t) = Region.code.after t := by
  have shown : mark ≠ '\\' := by
    rintro rfl
    cases real
  induction h with
  | nil => simp [Region.next, shown]
  | hidden c rest ih => simp [Region.next, ih]
  | plain other visible rest ih => simp [Region.next, other, visible, ih]

/-- The scanner is in code exactly where no string is open. -/
theorem after_eq_code_iff : Region.code.after s = .code ↔ Unquoted s := by
  constructor
  · exact Region.ends_of_after
  · intro h
    induction h with
    | nil => rfl
    | string real content rest ih =>
      rw [Region.after_cons, Region.next, if_pos real, content.after real, ih]
    | plain mark rest ih => simp [Region.next, mark, ih]

/-- Up to the first closing brace the scanner only counts. -/
theorem closing?_before (hu : '}' ∉ u) (region : Region) (depth : Nat) (s : Text) :
    closing? region depth (u ++ s) =
      (closing? (region.after u) (depth + region.openings u) s).map (u ++ ·) := by
  induction u generalizing region depth with
  | nil => simp [Region.openings]
  | cons c u ih =>
    obtain ⟨close, outside⟩ : '}' ≠ c ∧ '}' ∉ u := by simpa using hu
    by_cases opens : region = .code ∧ c = '{'
    · obtain ⟨rfl, rfl⟩ := opens
      have count : depth + Region.code.openings ('{' :: u) =
          depth + 1 + Region.code.openings u := (Nat.add_assoc depth 1 _).symm
      rw [List.cons_append, closing?_open, ih outside, count, Option.map_map]
      rfl
    · have inert : region = .code → c ≠ '{' ∧ c ≠ '}' := fun code =>
        ⟨fun brace => opens ⟨code, brace⟩, close.symm⟩
      have count : region.openings (c :: u) = (region.next c).openings u := by
        rw [Region.openings, if_neg opens, Nat.zero_add]
      rw [List.cons_append, closing?_inert inert, ih outside, count, Option.map_map]
      rfl

theorem closing?_ne_nil (h : closing? region depth s = some b) : b ≠ [] := by
  have longer : ∀ {c : Char} {found : Option Text}, found.map (c :: ·) = some b → b ≠ [] := by
    intro c found h
    obtain ⟨rest, -, rfl⟩ := Option.map_eq_some_iff.mp h
    exact List.cons_ne_nil c rest
  cases s with
  | nil => cases h
  | cons c s =>
    simp only [closing?] at h
    split at h
    · exact longer h
    · split at h
      · split at h
        · cases h
        · cases h
          exact List.cons_ne_nil c []
        · exact longer h
      · exact longer h

/-- A block ends at the first closing brace exactly if that brace is code and no other block has
been opened. -/
theorem block?_first_iff (hu : '}' ∉ u) (s : Text) :
    block? ('{' :: (u ++ '}' :: s)) = some ('{' :: (u ++ ['}'])) ↔
      Region.code.after u = .code ∧ Region.code.openings u = 0 := by
  have longer : ∀ {region depth}, (closing? region depth s).map ('}' :: ·) ≠ some ['}'] := by
    intro region depth h
    obtain ⟨b, found, same⟩ := Option.map_eq_some_iff.mp h
    exact closing?_ne_nil found (List.cons.inj same).2
  have last : block? ('{' :: (u ++ '}' :: s)) = some ('{' :: (u ++ ['}'])) ↔
      closing? (Region.code.after u) (Region.code.openings u + 1) ('}' :: s) = some ['}'] := by
    rw [block?, closing?_open, closing?_before hu, Nat.add_comm]
    simp [Option.map_eq_some_iff]
  rw [last]
  by_cases code : Region.code.after u = .code
  · cases depth : Region.code.openings u with
    | zero => simp [code, closing?_last]
    | succ d => simp [code, closing?_close, longer]
  · rw [closing?_inert fun h => absurd h code]
    simp [code, longer]

theorem outside_last_iff : Outside ('{' :: (u ++ ['}'])) (u.length + 1) ↔
    Region.code.after u = .code := by
  rw [Outside, ← after_eq_code_iff]
  simp [Region.next, isStringMark]

/-- The brace in front is the only one outside of strings exactly if no other opens a block. -/
theorem existsUnique_opening_iff : (∃! i, ('{' :: v)[i]? = some '{' ∧ Outside ('{' :: v) i) ↔
    Region.code.openings v = 0 := by
  have first : ('{' :: v)[0]? = some '{' ∧ Outside ('{' :: v) 0 := ⟨rfl, .nil⟩
  rw [Region.openings_eq_zero_iff]
  constructor
  · intro unique i brace code
    obtain ⟨j, -, only⟩ := unique
    have later : Outside ('{' :: v) (i + 1) := after_eq_code_iff.mp code
    have same := (only 0 first).trans (only (i + 1) ⟨brace, later⟩).symm
    cases same
  · intro inert
    refine ⟨0, first, ?_⟩
    intro i opens
    cases i with
    | zero => rfl
    | succ i => exact absurd (after_eq_code_iff.mpr opens.2) (inert i opens.1)

/-- A block has a closing brace, so the first one is found in it. -/
theorem through?_of_block? (h : block? ('{' :: s) = some b) :
    ∃ u behind, b = u ++ '}' :: behind ∧ '}' ∉ u ∧
      Text.through? '}' ('{' :: s) = some (u ++ ['}']) := by
  obtain ⟨⟨rest, front⟩, block⟩ := block?_eq_some_iff.mp h
  have closed : '}' ∈ b := by
    cases block with
    | braces inside => simp
  obtain ⟨u, behind, rfl, outside⟩ := List.eq_append_cons_of_mem closed
  refine ⟨u, behind, rfl, outside, Text.through?_eq_some_iff.mpr
    ⟨u, behind ++ rest, ?_, outside, rfl⟩⟩
  rw [← front, List.append_assoc, List.cons_append]

/-- The text from a function's brace on stands behind a header of the function, where a name may
begin. -/
theorem definition?_eq_some (h : definition? name script = some r) :
    ∃ (before : Text) (header : HeaderForm) (rest : Text),
      script = before ++ (header.front name ++ '{' :: rest) ∧ Text.admits true before = true ∧
        r = '{' :: rest := by
  obtain ⟨before, t, rfl, opens, here, -⟩ := Text.leftmostName_eq_some.mp h
  obtain ⟨header, rest, rfl, rfl⟩ := definitionAt?_eq_some_iff.mp here
  exact ⟨before, header, rest, rfl, opens, rfl⟩

namespace Extraction

/-- What is cut off behind an opening brace is a piece that ends with a closing one. -/
theorem cut?_eq_some {e : Extraction} (h : e.cut? ('{' :: s) = some body) :
    ∃ inside behind, body = '{' :: (inside ++ ['}']) ∧ '{' :: s = body ++ behind := by
  cases e with
  | firstBrace =>
    obtain ⟨u, behind, split, -, rfl⟩ := Text.through?_eq_some_iff.mp h
    obtain ⟨c, v, rfl⟩ : ∃ c v, u = c :: v := by
      cases u with
      | nil => cases split
      | cons c v => exact ⟨c, v, rfl⟩
    obtain ⟨rfl, rfl⟩ := List.cons.inj split
    exact ⟨v, behind, rfl, by simp⟩
  | balanced =>
    obtain ⟨⟨behind, front⟩, block⟩ := block?_eq_some_iff.mp h
    cases block with
    | @braces inside items => exact ⟨inside, behind, rfl, front.symm⟩

/-- Without a closing brace there is no matching one. -/
theorem balanced_none (h : firstBrace.cut? ('{' :: s) = none) :
    balanced.cut? ('{' :: s) = none := by
  rw [Option.eq_none_iff_forall_ne_some]
  intro body block
  obtain ⟨u, behind, -, -, first⟩ := through?_of_block? block
  rw [cut?, first] at h
  cases h

/-- The first closing brace is the matching one exactly if it is outside of strings, and of the
opening braces before it only the first. -/
theorem balanced_first_iff (h : firstBrace.cut? ('{' :: s) = some body) :
    balanced.cut? ('{' :: s) = some body ↔
      Outside body (body.length - 1) ∧ ∃! i, body[i]? = some '{' ∧ Outside body i := by
  obtain ⟨inside, behind, rfl, front⟩ := cut?_eq_some h
  obtain ⟨u, -, -, outside, cut⟩ := Text.through?_eq_some_iff.mp h
  obtain rfl : u = '{' :: inside := (List.append_left_inj ['}']).mp cut.symm
  obtain rfl : s = inside ++ '}' :: behind := by simpa using (List.cons.inj front).2
  have brace : '}' ∉ inside := fun h => outside (List.mem_cons_of_mem _ h)
  have length : ('{' :: (inside ++ ['}'])).length - 1 = inside.length + 1 := by simp
  have count : Region.code.openings (inside ++ ['}']) = Region.code.openings inside := by
    simp [Region.openings_append, Region.openings]
  rw [cut?, block?_first_iff brace, length, outside_last_iff, existsUnique_opening_iff, count]

/-- Both ways to end a body agree as far as they can: a body that ends at the matching brace begins
with the one that ends at the first brace, and they are the same exactly if that first brace and
one opening brace alone are outside of strings. Either is a piece of the script, behind the same
header. -/
theorem extract_agreement (name script : Text) :
    (∀ fault, firstBrace.extract name script = .error fault →
      fault = .bodyNotFound name ∧ balanced.extract name script = .error fault) ∧
    (∀ body, balanced.extract name script = .ok body →
      ∃ u behind, body = u ++ '}' :: behind ∧ '}' ∉ u ∧
        firstBrace.extract name script = .ok (u ++ ['}'])) ∧
    (∀ body, firstBrace.extract name script = .ok body →
      (balanced.extract name script = .ok body ↔ Outside body (body.length - 1) ∧
        ∃! i, body[i]? = some '{' ∧ Outside body i)) ∧
    (∀ body, firstBrace.extract name script = .ok body →
      ∃ (before : Text) (header : HeaderForm) (rest : Text),
        script = before ++ (header.front name ++ '{' :: rest) ∧ Text.admits true before = true ∧
        ∀ (e : Extraction) piece, e.extract name script = .ok piece →
          ∃ inside behind, piece = '{' :: (inside ++ ['}']) ∧ '{' :: rest = piece ++ behind) := by
  simp only [extract_eq_ok_iff, extract_eq_error_iff]
  cases start : definition? name script with
  | none => simp
  | some r =>
    obtain ⟨before, header, rest, split, opens, rfl⟩ := definition?_eq_some start
    simp only [Option.bind_some]
    refine ⟨?_, ?_, ?_, ?_⟩
    · intro fault failed
      obtain ⟨unclosed, rfl⟩ := failed
      exact ⟨rfl, balanced_none unclosed, rfl⟩
    · intro body block
      exact through?_of_block? block
    · intro body first
      exact balanced_first_iff first
    · intro body first
      exact ⟨before, header, rest, split, opens, fun e piece cut => cut?_eq_some cut⟩

end Extraction
end Descramble.Script
