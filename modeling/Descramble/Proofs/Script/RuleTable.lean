import Mathlib.Data.List.Find
import Descramble.Proofs.Script.Classification
import Descramble.Proofs.Script.Exclusion
import Descramble.Proofs.Script.Policy

namespace Descramble.Script

/-- The table tells apart what the standard one does, or less. -/
def Usual (rules : List Rule) : Prop := ∀ rule ∈ rules, rule ∈ Rule.standard

abbrev kinds (rules : List Rule) : List Kind := rules.map Rule.kind

/-- No helper that the statements call is defined twice. -/
def DefinedOnce (script : Text) (ss : List Text) : Prop :=
  ∀ name ∈ called ss, (helpers name script).length ≤ 1

theorem Usual.standard : Usual Rule.standard := fun _ => id

theorem mem_kinds_standard (kind : Kind) : kind ∈ kinds Rule.standard := Kind.mem_all kind

theorem Rule.eq_ofKind (h : rule ∈ standard) : rule = ofKind rule.kind := by
  simp only [standard, List.mem_cons, List.not_mem_nil, or_false] at h
  rcases h with rfl | rfl | rfl <;> rfl

variable {rules : List Rule} {script : Text}

theorem helperKind?_accepts (usual : Usual rules)
    (found : helperKind? rules script name = some kind) :
    kind ∈ kinds rules ∧ ∃ h ∈ helpers name script, (Rule.ofKind kind).accepts h = true := by
  obtain ⟨rule, first, rfl⟩ := Option.map_eq_some_iff.mp found
  have known := List.mem_of_find?_eq_some first
  have accepts : (helpers name script).any rule.accepts = true := by
    simpa using List.find?_some first
  obtain ⟨h, hh, accepts⟩ := List.any_eq_true.mp accepts
  rw [Rule.eq_ofKind (usual rule known)] at accepts
  exact ⟨List.mem_map_of_mem known, h, hh, accepts⟩

/-- Where a helper is defined once, a table finds its kind or none, whatever its order is. -/
theorem helperKind?_eq_some_iff (usual : Usual rules) (once : (helpers name script).length ≤ 1) :
    helperKind? rules script name = some kind ↔
      kind ∈ kinds rules ∧ ∃ h ∈ helpers name script, (Rule.ofKind kind).accepts h = true := by
  refine ⟨helperKind?_accepts usual, ?_⟩
  rintro ⟨known, h, hh, accepts⟩
  have found : (helperKind? rules script name).isSome = true := by
    obtain ⟨rule, hr, rfl⟩ := List.mem_map.mp known
    rw [← Rule.eq_ofKind (usual rule hr)] at accepts
    rw [helperKind?, Option.isSome_map, List.find?_isSome]
    exact ⟨rule, hr, List.any_eq_true.mpr ⟨h, hh, accepts⟩⟩
  obtain ⟨other, found⟩ := Option.isSome_iff_exists.mp found
  obtain ⟨-, h', hh', accepts'⟩ := helperKind?_accepts usual found
  have same : h' = h := by
    obtain ⟨only, single⟩ := List.length_eq_one_iff.mp
      (Nat.le_antisymm once (List.length_pos_of_mem hh))
    rw [single, List.mem_singleton] at hh hh'
    rw [hh, hh']
  subst same
  rw [found, Rule.accepts_exclusive accepts' accepts]

theorem helperKind?_restrict (usual : Usual rules) (once : (helpers name script).length ≤ 1) :
    helperKind? rules script name = some kind ↔
      kind ∈ kinds rules ∧ helperKind? Rule.standard script name = some kind := by
  simp only [helperKind?_eq_some_iff usual once, helperKind?_eq_some_iff .standard once,
    mem_kinds_standard, true_and]

/-- Where a helper is defined once, tables for the same kinds agree on it. -/
theorem helperKind?_congr (usual : Usual rules) (usual' : Usual rules')
    (same : ∀ kind, kind ∈ kinds rules ↔ kind ∈ kinds rules')
    (once : (helpers name script).length ≤ 1) :
    helperKind? rules script name = helperKind? rules' script name := by
  apply Option.ext
  intro kind
  rw [helperKind?_eq_some_iff usual once, helperKind?_eq_some_iff usual' once, same]

/-- No helper has two of the three shapes. So a helper that is defined once is of the kind whose
shape it has, in whatever order the rules of the standard table are tried. -/
theorem Helper.shapes_exclusive :
    (∀ h : Helper, [h.isReverse, h.isSlice, h.isSwap].count true ≤ 1) ∧
    ∀ (script name : Text) (h : Helper) (rules : List Rule),
      helpers name script = [h] → rules.Perm Rule.standard →
        helperKind? rules script name = helperKind? Rule.standard script name ∧
        ∀ kind, helperKind? rules script name = some kind ↔
          (Rule.ofKind kind).accepts h = true := by
  refine ⟨count_shapes_le_one, ?_⟩
  intro script name h rules defined perm
  have once : (helpers name script).length ≤ 1 := by simp [defined]
  have usual : Usual rules := fun rule hr => perm.mem_iff.mp hr
  have same : ∀ kind, kind ∈ kinds rules ↔ kind ∈ kinds Rule.standard := fun kind =>
    (perm.map Rule.kind).mem_iff
  refine ⟨helperKind?_congr usual .standard same once, ?_⟩
  intro kind
  rw [helperKind?_eq_some_iff usual once, same kind, defined]
  simp [mem_kinds_standard]

/-- A parameter may be called like the keyword of a declaration. -/
theorem Helper.shapes_exclusive_var :
    let script := "O={s:function(var,n){var .splice(0,n)}};".toList
    let h : Helper := ⟨["var".toList, "n".toList], "var .splice(0,n)".toList⟩
    let rules := [Rule.ofKind .swap, Rule.ofKind .slice, Rule.ofKind .reverse]
    helpers "s".toList script = [h] ∧ rules.Perm Rule.standard ∧
      [h.isReverse, h.isSlice, h.isSwap] = [false, true, false] ∧
      helperKind? rules script "s".toList = some .slice := by
  intro script h rules
  have defined : helpers "s".toList script = [h] := rfl
  have perm : rules.Perm Rule.standard := Rule.standard.reverse_perm
  have shapes : [h.isReverse, h.isSlice, h.isSwap] = [false, true, false] := rfl
  obtain ⟨-, order⟩ := Helper.shapes_exclusive
  exact ⟨defined, perm, shapes, ((order script _ h rules defined perm).2 .slice).mpr rfl⟩

/-- The first helper of a kind is the same under every table that can find the kind. -/
theorem firstOfKind?_restrict (usual : Usual rules) (once : DefinedOnce script ss) (kind : Kind) :
    firstOfKind? rules script ss kind =
      if kind ∈ kinds rules then firstOfKind? Rule.standard script ss kind else none := by
  split
  · next known =>
    apply List.find?_congr
    intro name hn
    simp only [helperKind?_restrict usual (once name hn), known, true_and]
  · next unknown =>
    rw [firstOfKind?, List.find?_eq_none]
    intro name hn
    simp only [helperKind?_restrict usual (once name hn), unknown, false_and, decide_false]
    exact Bool.false_ne_true

/-- A table with fewer kinds binds the same helpers to those that it has. -/
theorem kindOf?_restrict (usual : Usual rules) (once : DefinedOnce script ss) (name : Text) :
    (classify rules script ss).kindOf? name =
      ((classify Rule.standard script ss).kindOf? name).filter (· ∈ kinds rules) := by
  apply Option.ext
  intro kind
  rw [kindOf?_classify, firstOfKind?_restrict usual once, Option.filter_eq_some_iff,
    kindOf?_classify, decide_eq_true_iff]
  split
  · next known => exact ⟨fun h => ⟨h, known⟩, And.left⟩
  · next unknown => exact ⟨nofun, fun h => absurd h.2 unknown⟩

/-- Helpers that are not bound take their operations with them. -/
theorem operation?_filter (keep : Kind → Bool)
    (h : ∀ name, b'.kindOf? name = (b.kindOf? name).filter keep) (s : Text) :
    operation? .ignore b' s =
      (operation? .ignore b s).map fun op => op.filter fun o => keep o.kind := by
  have bound : (calledHelper? s).bind b'.kindOf? =
      ((calledHelper? s).bind b.kindOf?).filter keep := by
    cases calledHelper? s with
    | none => rfl
    | some name => exact h name
  simp only [operation?, bound]
  cases (calledHelper? s).bind b.kindOf? with
  | none => rfl
  | some kind =>
    have same : ∀ n, (some (Operation.ofKind kind n)).filter (fun o => keep o.kind) =
        if keep kind then some (.ofKind kind n) else none := by
      simp [Option.filter_some]
    rw [Option.filter_some]
    cases kept : keep kind <;> simp only [kept, Bool.false_eq_true, if_true, if_false] at same ⊢
    · split
      · cases readOperand kind s <;> simp only [Except.map, same]
      · simp only [Except.map, same]
    · split
      · cases readOperand kind s <;> simp only [Except.map, same]
      · simp only [Except.map, same]

/-- Kinds that are not bound drop out of the program, and nothing else changes. -/
theorem sequence_filter (keep : Kind → Bool)
    (h : ∀ name, b'.kindOf? name = (b.kindOf? name).filter keep) (ss : List Text) :
    sequence .ignore b' ss =
      (sequence .ignore b ss).map fun p => p.filter fun o => keep o.kind := by
  induction ss with
  | nil => rfl
  | cons s ss ih =>
    obtain ⟨op, hop⟩ := operation?_ignore b s
    obtain ⟨rest, hrest⟩ := sequence_ignore b ss
    have hop' : operation? .ignore b' s = .ok (op.filter fun o => keep o.kind) := by
      rw [operation?_filter keep h, hop]
      rfl
    rw [hrest] at ih
    have whole := sequence_cons_ok.mpr ⟨op, rest, hop, hrest, rfl⟩
    rw [whole, sequence_cons_ok.mpr ⟨_, _, hop', ih, rfl⟩]
    cases op with
    | none => rfl
    | some o => cases kept : keep o.kind <;> simp [Except.map, Option.filter_some, kept]

/-- A table of some of the standard rules leaves out the operations of the other kinds, and changes
nothing else. -/
theorem Parser.parse_restrict (key : Text) (extraction : Extraction) (script : Text)
    (rules : List Rule) (usual : ∀ rule ∈ rules, rule ∈ Rule.standard)
    (once : ∀ ss, candidates key extraction script = .ok ss →
      ∀ name ∈ called ss, (helpers name script).length ≤ 1) :
    Parser.parse { key, extraction, policy := .ignore, rules } script =
      (Parser.parse { key, extraction, policy := .ignore, rules := Rule.standard } script).map
        fun p => p.filter fun op => op.kind ∈ rules.map Rule.kind := by
  simp only [Parser.parse_eq]
  cases found : candidates key extraction script with
  | error fault => rfl
  | ok ss =>
    exact sequence_filter (· ∈ kinds rules) (kindOf?_restrict usual (once ss found)) ss

def sliceAndReverse : Text :=
  "O={r:function(p){p.reverse()},s:function(p,q){p.splice(0,q)}};".toList ++
    "f=function(a){a;O.s(a,2);O.r(a);a};d.set('signature',f(c))".toList

/-- A table that names one rule twice only finds slices. -/
theorem Parser.parse_restrict_slices :
    let rules := [Rule.ofKind .slice, Rule.ofKind .slice]
    (∀ rule ∈ rules, rule ∈ Rule.standard) ∧
    (∀ ss, candidates defaultKey .firstBrace sliceAndReverse = .ok ss →
      ∀ name ∈ called ss, (helpers name sliceAndReverse).length ≤ 1) ∧
    Parser.parse { rules := Rule.standard } sliceAndReverse = .ok [.slice 2, .reverse] ∧
    Parser.parse { rules } sliceAndReverse = .ok [.slice 2] := by
  have usual : ∀ rule ∈ [Rule.ofKind .slice, Rule.ofKind .slice], rule ∈ Rule.standard := by
    simp [Rule.standard]
  have lines : candidates defaultKey .firstBrace sliceAndReverse =
      .ok ["O.s(a,2)".toList, "O.r(a)".toList] := rfl
  have once : ∀ ss, candidates defaultKey .firstBrace sliceAndReverse = .ok ss →
      ∀ name ∈ called ss, (helpers name sliceAndReverse).length ≤ 1 := by
    intro ss h
    rw [lines, Except.ok.injEq] at h
    subst h
    decide +kernel
  have whole : Parser.parse { rules := Rule.standard } sliceAndReverse =
      .ok [.slice 2, .reverse] := rfl
  refine ⟨usual, once, whole, ?_⟩
  rw [Parser.parse_restrict defaultKey .firstBrace sliceAndReverse _ usual once, whole]
  rfl

end Descramble.Script
