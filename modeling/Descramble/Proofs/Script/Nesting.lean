import Mathlib.Data.List.Induction
import Descramble.Script.Function

namespace Descramble.Script

/-- The characters of a string between its marks. Another mark of the same kind stands there only
behind a backslash. -/
inductive Quoted (mark : Char) : Text → Prop
  | nil : Quoted mark []
  | hidden (c : Char) (rest : Quoted mark s) : Quoted mark ('\\' :: c :: s)
  | plain (other : c ≠ mark) (shown : c ≠ '\\') (rest : Quoted mark s) : Quoted mark (c :: s)

/-- Any number of items: blocks, strings, and characters that are neither braces nor the marks of
strings. -/
inductive Items : Text → Prop
  | nil : Items []
  | block (inside : Items s) (rest : Items t) : Items ('{' :: (s ++ '}' :: t))
  | string (real : isStringMark mark = true) (content : Quoted mark s) (rest : Items t) :
    Items (mark :: (s ++ mark :: t))
  | plain (opens : c ≠ '{') (closes : c ≠ '}') (mark : isStringMark c = false) (rest : Items s) :
    Items (c :: s)

inductive Block : Text → Prop
  | braces (inside : Items s) : Block ('{' :: (s ++ ['}']))

/-- Texts that close as many open blocks: items stand in front of each brace. -/
inductive Closes : Nat → Text → Prop
  | last (inside : Items s) : Closes 1 (s ++ ['}'])
  | next (inside : Items s) (rest : Closes (n + 1) t) : Closes (n + 2) (s ++ '}' :: t)

theorem Items.append (hs : Items s) (ht : Items t) : Items (s ++ t) := by
  induction hs with
  | nil => exact ht
  | block inside rest _ ih =>
    rw [List.cons_append, List.append_assoc, List.cons_append]
    exact .block inside ih
  | string real content rest ih =>
    rw [List.cons_append, List.append_assoc, List.cons_append]
    exact .string real content ih
  | plain opens closes mark rest ih => exact .plain opens closes mark ih

theorem Closes.prepend (hs : Items s) (ht : Closes n t) : Closes n (s ++ t) := by
  cases ht with
  | last inside =>
    rw [← List.append_assoc]
    exact .last (hs.append inside)
  | next inside rest =>
    rw [← List.append_assoc]
    exact .next (hs.append inside) rest

/-- What closes a block, with the opening brace in front, is an item of the block around it. -/
theorem Closes.reopen (h : Closes (n + 2) t) : Closes (n + 1) ('{' :: t) := by
  cases h with
  | @next s _ t inside rest =>
    have item : Items ('{' :: (s ++ ['}'])) := .block inside .nil
    have whole := rest.prepend item
    rwa [List.cons_append, List.append_assoc, List.singleton_append] at whole

/-- What ends a string or an escape that has begun, and then closes blocks. -/
def Region.Closes (n : Nat) : Region → Text → Prop
  | .code, t => Script.Closes n t
  | .string mark, t => ∃ s r, t = s ++ mark :: r ∧ Quoted mark s ∧ Script.Closes n r
  | .escape mark, t => ∃ c s r, t = c :: (s ++ mark :: r) ∧ Quoted mark s ∧ Script.Closes n r

/-- A character that is no brace of code can be put in front. -/
theorem Region.Closes.cons {region : Region} (inert : region = .code → c ≠ '{' ∧ c ≠ '}')
    (h : (region.next c).Closes n t) : region.Closes n (c :: t) := by
  cases region with
  | code =>
    obtain ⟨opens, closes⟩ := inert rfl
    rw [Region.next] at h
    split at h
    · next real =>
      obtain ⟨s, r, rfl, content, rest⟩ := h
      have item : Items (c :: (s ++ [c])) := .string real content .nil
      have whole := rest.prepend item
      rwa [List.cons_append, List.append_assoc, List.singleton_append] at whole
    · next plain =>
      have item : Items [c] := .plain opens closes (by simpa using plain) .nil
      exact Script.Closes.prepend item h
  | string mark =>
    rw [Region.next] at h
    split at h
    · next hides =>
      obtain ⟨d, s, r, rfl, content, rest⟩ := h
      exact ⟨'\\' :: d :: s, r, by rw [hides]; rfl, .hidden d content, rest⟩
    · next shown =>
      split at h
      · next ends => exact ⟨[], t, by rw [ends]; rfl, .nil, h⟩
      · next other =>
        obtain ⟨s, r, rfl, content, rest⟩ := h
        exact ⟨c :: s, r, rfl, .plain other shown content, rest⟩
  | escape mark =>
    obtain ⟨s, r, rfl, content, rest⟩ := h
    exact ⟨c, s, r, rfl, content, rest⟩

/-- Whatever the scanner stops behind closes the blocks that were open. -/
theorem Region.closes_of_closing? {region : Region} (h : closing? region (n + 1) s = some b) :
    region.Closes (n + 1) b := by
  induction s generalizing region n b with
  | nil => cases h
  | cons c s ih =>
    by_cases inert : region = .code → c ≠ '{' ∧ c ≠ '}'
    · rw [closing?_inert inert] at h
      obtain ⟨b, found, rfl⟩ := Option.map_eq_some_iff.mp h
      exact .cons inert (ih found)
    · obtain ⟨rfl, brace⟩ : region = .code ∧ (c = '{' ∨ c = '}') := by grind
      rcases brace with rfl | rfl
      · rw [closing?_open] at h
        obtain ⟨b, found, rfl⟩ := Option.map_eq_some_iff.mp h
        exact Script.Closes.reopen (ih found)
      · cases n with
        | zero =>
          cases h
          exact .last .nil
        | succ n =>
          rw [closing?_close] at h
          obtain ⟨b, found, rfl⟩ := Option.map_eq_some_iff.mp h
          exact .next .nil (ih found)

/-- A string is passed over up to the mark that ends it. -/
theorem Quoted.closing?_append (h : Quoted mark s) (real : isStringMark mark = true) (depth : Nat)
    (r : Text) : closing? (.string mark) depth (s ++ mark :: r) =
      (closing? .code depth r).map fun b => s ++ mark :: b := by
  induction h with
  | nil =>
    have shown : mark ≠ '\\' := by
      rintro rfl
      cases real
    simp [closing?_inert, Region.next, shown]
  | hidden c rest ih => simp [closing?_inert, Region.next, ih, Function.comp_def]
  | plain other shown rest ih =>
    simp [closing?_inert, Region.next, other, shown, ih, Function.comp_def]

theorem isStringMark_ne_brace (h : isStringMark c = true) : c ≠ '{' ∧ c ≠ '}' := by
  constructor
  · rintro rfl
    cases h
  · rintro rfl
    cases h

/-- Items leave the scanner where it was, inside the same blocks. -/
theorem Items.closing?_append (h : Items s) (depth : Nat) (r : Text) :
    closing? .code (depth + 1) (s ++ r) = (closing? .code (depth + 1) r).map (s ++ ·) := by
  induction h generalizing depth r with
  | nil => simp
  | block inside rest ihInside ihRest =>
    simp only [List.cons_append, List.append_assoc, closing?_open, ihInside, closing?_close, ihRest,
      Option.map_map, Function.comp_def]
  | string real content rest ih =>
    simp only [List.cons_append, List.append_assoc,
      closing?_inert fun _ => isStringMark_ne_brace real, Region.next, real, if_true,
      content.closing?_append real, ih, Option.map_map, Function.comp_def]
  | plain opens closes mark rest ih =>
    simp only [List.cons_append, closing?_inert fun _ => ⟨opens, closes⟩, Region.next, mark,
      Bool.false_eq_true, if_false, ih, Option.map_map, Function.comp_def]

/-- A block ends where all that opened in it are closed. -/
theorem Closes.closing?_append (h : Closes (n + 1) b) (r : Text) :
    closing? .code (n + 1) (b ++ r) = some b := by
  generalize depth : n + 1 = m at h
  induction h generalizing n with
  | last inside =>
    obtain rfl : n = 0 := by omega
    rw [List.append_assoc, inside.closing?_append, List.singleton_append, closing?_last]
    rfl
  | @next _ k _ inside rest ih =>
    obtain rfl : n = k + 1 := by omega
    rw [List.append_assoc, List.cons_append, inside.closing?_append, closing?_close, ih rfl]
    rfl

theorem block_cons_iff : Block ('{' :: t) ↔ Closes 1 t := by
  constructor
  · rintro ⟨inside⟩
    exact .last inside
  · rintro ⟨inside⟩
    exact .braces inside

/-- The block that the scanner finds is the one that begins the text. -/
theorem block?_eq_some_iff : block? ('{' :: s) = some b ↔ b <+: '{' :: s ∧ Block b := by
  constructor
  · intro h
    have front := closing?_prefix h
    rw [block?, closing?_open] at h
    obtain ⟨t, found, rfl⟩ := Option.map_eq_some_iff.mp h
    exact ⟨front, block_cons_iff.mpr (Region.closes_of_closing? found)⟩
  · rintro ⟨⟨r, front⟩, h⟩
    cases h with
    | @braces t inside =>
      have closes : Closes 1 (t ++ ['}']) := .last inside
      rw [List.cons_append] at front
      rw [← front, block?, closing?_open, closes.closing?_append]
      rfl

def Region.depth? (region : Region) (depth : Nat) (c : Char) : Option Nat :=
  if region = .code ∧ c = '{' then some (depth + 1)
  else if region = .code ∧ c = '}' then if depth = 0 then none else some (depth - 1)
  else some depth

/-- Region and depth behind a text, unless it closes a block that is not open. -/
def reached (region : Region) (depth : Nat) : Text → Option (Region × Nat)
  | [] => some (region, depth)
  | c :: s => (region.depth? depth c).bind fun d => reached (region.next c) d s

theorem reached_append (region : Region) (depth : Nat) (s t : Text) :
    reached region depth (s ++ t) =
      (reached region depth s).bind fun here => reached here.1 here.2 t := by
  induction s generalizing region depth with
  | nil => rfl
  | cons c s ih => simp only [List.cons_append, reached, ih, Option.bind_assoc]

/-- Inside a block the next character ends the outermost one, or leaves a block open. -/
theorem closing?_step (region : Region) (depth : Nat) (c : Char) (s : Text) :
    closing? region (depth + 1) (c :: s) = some [c] ∨
    ∃ d, region.depth? (depth + 1) c = some (d + 1) ∧
      closing? region (depth + 1) (c :: s) =
        (closing? (region.next c) (d + 1) s).map (c :: ·) := by
  by_cases opens : region = .code ∧ c = '{'
  · obtain ⟨rfl, rfl⟩ := opens
    exact .inr ⟨depth + 1, rfl, rfl⟩
  by_cases closes : region = .code ∧ c = '}'
  · obtain ⟨rfl, rfl⟩ := closes
    cases depth with
    | zero => exact .inl rfl
    | succ d => exact .inr ⟨d, rfl, rfl⟩
  · have inert : region = .code → c ≠ '{' ∧ c ≠ '}' := by
      intro code
      exact ⟨fun brace => opens ⟨code, brace⟩, fun brace => closes ⟨code, brace⟩⟩
    have depths : region.depth? (depth + 1) c = some (depth + 1) := by
      rw [Region.depth?, if_neg opens, if_neg closes]
    exact .inr ⟨depth, depths, closing?_inert inert (depth + 1) s⟩

/-- As long as no block is complete, the scanner goes on inside an open one. -/
theorem reached_open (whole : '{' :: s = p ++ r) (begun : p ≠ [])
    (incomplete : ∀ b, b <+: p → ¬ Block b) :
    ∃ region depth, reached .code 0 p = some (region, depth + 1) ∧
      block? ('{' :: s) = (closing? region (depth + 1) r).map (p ++ ·) := by
  induction p using List.reverseRecOn generalizing r with
  | nil => contradiction
  | append_singleton p c ih =>
    rw [List.append_assoc, List.singleton_append] at whole
    by_cases first : p = []
    · subst first
      obtain ⟨rfl, rfl⟩ := List.cons.inj whole
      exact ⟨.code, 0, rfl, rfl⟩
    · obtain ⟨region, depth, here, scan⟩ :=
        ih whole first fun b front => incomplete b (front.trans (List.prefix_append p [c]))
      rcases closing?_step region depth c r with done | ⟨d, depths, step⟩
      · rw [done, Option.map_some] at scan
        exact absurd (block?_eq_some_iff.mp scan).2 (incomplete _ (List.prefix_refl _))
      · refine ⟨region.next c, d, ?_, ?_⟩
        · rw [reached_append, here, Option.bind_some, reached, depths]
          rfl
        · rw [scan, step, Option.map_map]
          simp only [Function.comp_def, List.append_assoc, List.singleton_append]

/-- What the scanner finds behind an opening brace is the one block at the front of the text, and it
finds nothing exactly if there is none. Until then it is inside an open block wherever it has come,
so that no brace closes a block that is not open. -/
theorem brace_scan_exact (s : Text) :
    (∀ b, block? ('{' :: s) = some b ↔ b <+: '{' :: s ∧ Block b) ∧
    (∀ b b', b <+: '{' :: s → Block b → b' <+: '{' :: s → Block b' → b = b') ∧
    (block? ('{' :: s) = none ↔ ∀ b, b <+: '{' :: s → ¬ Block b) ∧
    ∀ p r, '{' :: s = p ++ r → p ≠ [] → (∀ b, b <+: p → ¬ Block b) →
      ∃ region depth, reached .code 0 p = some (region, depth + 1) ∧
        block? ('{' :: s) = (closing? region (depth + 1) r).map (p ++ ·) := by
  refine ⟨fun b => block?_eq_some_iff, ?_, ?_, fun p r => reached_open⟩
  · intro b b' front h front' h'
    have found : block? ('{' :: s) = some b := block?_eq_some_iff.mpr ⟨front, h⟩
    have found' : block? ('{' :: s) = some b' := block?_eq_some_iff.mpr ⟨front', h'⟩
    exact Option.some.inj (found.symm.trans found')
  · rw [Option.eq_none_iff_forall_ne_some]
    constructor
    · intro endless b front h
      exact endless b (block?_eq_some_iff.mpr ⟨front, h⟩)
    · intro endless b found
      obtain ⟨front, h⟩ := block?_eq_some_iff.mp found
      exact endless b front h

end Descramble.Script
