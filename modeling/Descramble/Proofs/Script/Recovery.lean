import Descramble.Proofs.Script.Location
import Descramble.Proofs.Script.Recognition

namespace Descramble.Script.Layout

theorem trim_call (l : Layout) (i : Instruction) : Text.trim (l.call i) = l.call i := by
  apply Text.trim_eq_self
  · obtain ⟨c, w, hn, hc, -⟩ := l.object.exists_cons
    intro d hd
    have first : c = d := by simpa [call, hn] using hd
    exact first ▸ Text.not_isBlank_of_isWordChar hc
  · have whole : l.call i = (l.object.text ++ '.' :: ((l.helper i.operation.kind).text ++
        '(' :: (l.argument.text ++ ',' :: i.numeral))) ++ [')'] := by
      simp [call]
    intro d hd
    rw [whole, List.getLast?_concat, Option.mem_some_iff] at hd
    exact hd ▸ rfl

/-- The statements at both ends fall away, and all calls between them stay. -/
theorem statements_body (l : Layout) (is : List Instruction) :
    statements (l.body is) = is.map l.call := by
  have opening : Inside ['{', '=', '.', '(', ')', '"'] ('{' :: (l.opening ++ ['"', '"', ')'])) := by
    simp
  have calls : ∀ i, Inside ['.', '(', ',', ')'] (l.call i) := fun i => by simp
  have ending : Inside [' ', '.', '(', ')', '"', '}'] (l.ending ++ ['"', '"', ')', '}']) := by simp
  have parts : Text.pieces (· == ';') (l.body is) = ('{' :: (l.opening ++ ['"', '"', ')'])) ::
      (is.map l.call ++ [l.ending ++ ['"', '"', ')', '}']]) := by
    refine Text.pieces_join ';' ?_ (by simp)
    intro p hp
    rcases List.mem_cons.mp hp with rfl | hp
    · exact opening.not_mem rfl (by simp)
    · rcases List.mem_append.mp hp with hp | hp
      · obtain ⟨i, -, rfl⟩ := List.mem_map.mp hp
        exact (calls i).not_mem rfl (by simp)
      · exact List.mem_singleton.mp hp ▸ ending.not_mem rfl (by simp)
  have whole : ∀ s ∈ is.map l.call, (!s.isEmpty) = true := by
    intro s hs
    obtain ⟨i, -, rfl⟩ := List.mem_map.mp hs
    simp [call]
  have trimmed : (is.map l.call).map Text.trim = is.map l.call := by
    simp [trim_call]
  rw [statements, parts, List.tail_cons, List.dropLast_concat, trimmed,
    List.filter_eq_self.mpr whole]

/-- A script is read as the program that it was written for, in whichever way its body is cut out
and whatever is done with statements that stand for no operation. -/
theorem parse_text (l : Layout) (is : List Instruction) (extraction : Extraction)
    (policy : Policy) :
    Parser.parse { key := l.key, extraction, policy } (l.text is) =
      .ok (is.map Instruction.operation) := by
  have bound : ∀ i ∈ is, (classify Rule.standard (l.text is) (is.map l.call)).kindOf?
      (l.helper i.operation.kind).text = some i.operation.kind :=
    fun i hi => l.kindOf?_helper (l.text is) (l.helperKind?_text is) hi
  simp only [Parser.parse_steps, l.findEntry_text is, l.extract_text is, statements_body, bind,
    Except.bind]
  exact l.sequence_calls policy bound

def short : Layout where
  object := ⟨['X', 'y'], by simp, rfl⟩
  helper
    | .reverse => ⟨['r', 'v'], by simp, rfl⟩
    | .slice => ⟨['s', 'l'], by simp, rfl⟩
    | .swap => ⟨['s', 'w'], by simp, rfl⟩
  target := ⟨['a'], by simp, rfl⟩
  amount := ⟨['b'], by simp, rfl⟩
  temporary := ⟨['c'], by simp, rfl⟩
  entry := ⟨['X', 'o'], by simp, rfl⟩
  argument := ⟨['a'], by simp, rfl⟩
  key := defaultKey
  order := [.reverse, .slice, .swap]
  distinct := by rintro (_ | _ | _) (_ | _ | _) <;> decide
  keyIsWord := rfl
  complete := .refl _

example : short.text
    [⟨.swap 3, [], rfl⟩, ⟨.slice 2, [], rfl⟩, ⟨.reverse, ['4', '5'], rfl⟩] =
    "var Xy=\x7brv:function(a)\x7ba.reverse()\x7d,".toList ++
      "sl:function(a,b)\x7ba.splice(0,b)\x7d,".toList ++
      "sw:function(a,b)\x7bvar c=a[0];a[0]=a[b%a.length];a[b%a.length]=c\x7d\x7d;".toList ++
      "Xo=function(a)\x7ba=a.split(\"\");Xy.sw(a,3);Xy.sl(a,2);Xy.rv(a,45);".toList ++
      "return a.join(\"\")\x7d;d.set(\"signature\",Xo(c));".toList := by
  cbv

end Descramble.Script.Layout
