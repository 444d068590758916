import Mathlib.Data.List.Forall2
import Descramble.CommandLine.Output
import Descramble.Proofs.Program.Json

namespace Descramble

open Json

variable {depth : Nat}

/-- Operands have 64 bits, so they are read back from their text. -/
theorem Operation.toValue_exact (op : Operation) : Exact (depth + 1) op.toValue := by
  rw [op.toValue_eq]
  apply Exact.object
  intro m hm
  obtain rfl | field := List.mem_cons.mp hm
  · exact .string op.kind.name
  · rw [fields] at field
    split at field
    · obtain rfl := List.mem_singleton.mp field
      exact .natural op.operand.toNat_lt_size
    · cases field

theorem Program.toValue_exact (p : Program) : Exact (depth + 2) p.toValue := by
  apply Exact.list
  intro v hv
  obtain ⟨op, -, rfl⟩ := List.mem_map.mp hv
  exact op.toValue_exact

namespace CommandLine

theorem Result.toValue_exact (result : Result) : Exact (depth + 1) result.toValue := by
  apply Exact.object
  intro m hm
  cases url : result.url with
  | none =>
    simp only [url, Option.toList_none, List.map_nil, List.append_nil, List.mem_cons,
      List.not_mem_nil, or_false] at hm
    obtain rfl | rfl := hm <;> exact .string _
  | some u =>
    simp only [url, Option.toList_some, List.map_cons, List.map_nil, List.cons_append,
      List.nil_append, List.mem_cons, List.not_mem_nil, or_false] at hm
    obtain rfl | rfl | rfl := hm <;> exact .string _

theorem Report.toValue_exact (r : Report) : Exact (depth + 3) r.toValue := by
  have results : Exact (depth + 2) (.list (r.results.map Result.toValue)) := by
    apply Exact.list
    intro v hv
    obtain ⟨result, -, rfl⟩ := List.mem_map.mp hv
    exact result.toValue_exact
  apply Exact.object
  intro m hm
  simp only [List.mem_cons, List.not_mem_nil, or_false] at hm
  obtain rfl | rfl | rfl := hm
  · exact .string r.playerVersion
  · exact r.program.toValue_exact
  · exact results

/-- The members of an object that says what a result says: nothing is added, and there is an
address exactly if the result has one. -/
structure Result.HeldBy (result : Result) (members : List (Text × Value)) : Prop where
  keys : members.map Prod.fst = ["signature".toList, "deciphered".toList] ++
    if result.url.isSome then ["url".toList] else []
  signature : members.lookup "signature".toList = some (.string result.signature)
  deciphered : members.lookup "deciphered".toList = some (.string result.deciphered)
  url : members.lookup "url".toList = result.url.map .string

theorem Result.toValue_heldBy (result : Result) :
    ∃ members, result.toValue = .object members ∧ result.HeldBy members := by
  refine ⟨_, rfl, ?_⟩
  cases url : result.url with
  | none => exact ⟨by simp [url], rfl, rfl, by rw [url]; rfl⟩
  | some u => exact ⟨by simp [url], rfl, rfl, by rw [url]; rfl⟩

def Report.outline (r : Report) (program : Value) (items : List Value) : Value :=
  .object [("player_version".toList, .string r.playerVersion), ("program".toList, program),
    ("results".toList, .list items)]

def memberLine (key value : Text) : Text := newline 1 ++ stringText key ++ ": ".toList ++ value

def layout (version program results : Text) : Text :=
  '{' :: memberLine "player_version".toList version ++
    ',' :: memberLine "program".toList program ++
    ',' :: memberLine "results".toList results ++ ['\n', '}']

theorem Report.text_eq (r : Report) :
    r.text = layout (stringText r.playerVersion) (pretty 1 r.program.toValue)
      (pretty 1 (.list (r.results.map Result.toValue))) := by
  simp [text, toValue, pretty, prettyMembers, layout, memberLine, newline]

/-- Nothing of a report is lost in its text. The text is a document of one object, and of no other
value, and the reader of documents finds that object: it has the version, each result in its place
and the program. The program is also read from its own part of the text, and from whatever else
writes its value. -/
theorem Report.text_lossless (r : Report) :
    ∃ programText resultsText program items,
      r.text = layout (stringText r.playerVersion) programText resultsText ∧
      (∀ v, Written maxDepth v r.text ↔ v = r.outline program items) ∧
      Value.parse r.text = .ok (r.outline program items) ∧
      List.Forall₂ (fun result item => ∃ members, item = .object members ∧ result.HeldBy members)
        r.results items ∧
      Value.parse programText = .ok program ∧
      Program.ofJson programText = .ok r.program ∧
      ∀ t, Written maxDepth program t → Program.ofJson t = .ok r.program := by
  have report : Exact (124 + 3) r.toValue := r.toValue_exact
  have whole : Written maxDepth r.toValue r.text := written_pretty report 0
  have program : Exact (125 + 2) r.program.toValue := r.program.toValue_exact
  have part : Written maxDepth r.program.toValue (pretty 1 r.program.toValue) :=
    written_pretty program 1
  refine ⟨_, _, r.program.toValue, r.results.map Result.toValue, r.text_eq, ?_, parse_written whole,
    ?_, parse_written part, Program.ofJson_written part, ?_⟩
  · intro v
    constructor
    · intro h
      exact written_unique h whole
    · intro same
      exact same ▸ whole
  · rw [List.forall₂_map_right_iff, List.forall₂_same]
    intro result _
    exact result.toValue_heldBy
  · intro t h
    exact Program.ofJson_written h

end CommandLine
end Descramble
