import Descramble.Proofs.Script.Definition
import Descramble.Proofs.Script.Layout
import Descramble.Script.Function

namespace Descramble.Script

open Text (Name)

theorem Inside.plain (hu : Inside plainMarks u) :
    ∀ c ∈ u, isStringMark c = false ∧ c ≠ '{' ∧ c ≠ '}' := by
  intro c hc
  have other := hu.ne hc
  have noMark : isStringMark c = false := by
    simp [isStringMark, other '"' rfl (by decide), other '\'' rfl (by decide),
      other (Char.ofNat 96) rfl (by decide)]
  exact ⟨noMark, other '{' rfl (by decide), other '}' rfl (by decide)⟩

theorem entryAt?_barren (key : Text) (hu : Inside codeMarks u) : Text.Barren (entryAt? key) u := by
  apply Text.Barren.of_first
  intro c hc s
  have other := hu.ne hc
  simp [entryAt?, Text.quote?, other '"' rfl (by decide), other '\'' rfl (by decide)]

namespace Layout

/-- An empty string is no key: neither as the empty key, since a comma would have to follow, nor as
the end of a longer one. -/
theorem entryAt?_barren_emptyString (l : Layout) (hu : Text.Barren (entryAt? l.key) (')' :: u)) :
    Text.Barren (entryAt? l.key) ('"' :: '"' :: ')' :: u) := by
  by_cases hk : l.key = []
  · refine .cons ?_ (.cons ?_ hu)
    · intro s
      simp [entryAt?, hk, Text.quote?, Text.symbol?_cons_ne (d := ')') rfl]
    · intro s
      simp [entryAt?, hk, Text.quote?]
  · have name : ∀ c s, Text.isWordChar c = false → l.key.isPrefixOf? (c :: s) = none :=
      fun c s hc => Name.isPrefixOf?_mark ⟨l.key, hk, l.keyIsWord⟩ hc s
    refine .cons ?_ (.cons ?_ hu)
    · intro s
      simp [entryAt?, Text.quote?, name '"' _ rfl]
    · intro s
      simp [entryAt?, Text.quote?, name ')' _ rfl]

theorem entryAt?_use (l : Layout) : entryAt? l.key l.use = some l.entry.text := by
  simp only [entryAt?, use, Text.quote?, Text.isPrefixOf?_append, true_or, ↓reduceIte,
    Option.bind_eq_bind, Option.bind_some, Text.symbol?_cons (c := ',') rfl,
    l.entry.skipBlank_append, l.entry.word?_append (c := '(') rfl, Text.char?, Option.pure_def]

/-- The entry function is found whatever the author calls it. -/
theorem findEntry_text (l : Layout) (is : List Instruction) :
    findEntry l.key (l.text is) = .ok l.entry.text := by
  have object := entryAt?_barren l.key l.inside_objectText
  have header : Inside codeMarks
      (l.entry.text ++ '=' :: (functionWord ++ '(' :: (l.argument.text ++ [')', '{']))) := by
    simp [codeMarks]
  have opening : Inside codeMarks l.opening := by simp [codeMarks]
  have between : Inside codeMarks (')' :: l.between is) := by simp [codeMarks]
  have ending : Inside codeMarks (')' :: '}' :: handing) := by simp +decide [codeMarks, handing]
  have front := (((object.append (entryAt?_barren l.key header)).append
    (entryAt?_barren l.key opening)).append
      (l.entryAt?_barren_emptyString (entryAt?_barren l.key between))).append
        (l.entryAt?_barren_emptyString (entryAt?_barren l.key ending))
  have whole : l.text is = objectText l.object (l.order.map l.member) ++
      (l.entry.text ++ '=' :: (functionWord ++ '(' :: (l.argument.text ++ [')', '{']))) ++
        l.opening ++
        ('"' :: '"' :: ')' :: l.between is) ++ ('"' :: '"' :: ')' :: '}' :: handing) ++ l.use := by
    simp [text, entryText, body_eq]
  rw [findEntry_eq_ok_iff, whole, Text.leftmost_barren front, Text.leftmost_of_find l.entryAt?_use]

theorem not_mem_header (l : Layout) (k : Kind) : '=' ∉ (l.helper k).text ++ ':' :: (functionWord ++
    '(' :: (Text.join [','] ((l.parameters k).map Text.Span.text) ++ [')', '{'])) := by
  simp [(l.helper k).not_mem (c := '=') rfl, functionWord,
    not_mem_parameters (l.parameters k) (c := '=') rfl (by decide)]

theorem member_text (l : Layout) (k : Kind) : (l.member k).text =
    ((l.helper k).text ++ ':' :: (functionWord ++
      '(' :: (Text.join [','] ((l.parameters k).map Text.Span.text) ++ [')', '{']))) ++
        (l.work k ++ ['}']) := by
  simp [member, Member.text, Member.function]

/-- A swap assigns elements, but none of its assignments defines a function. -/
theorem definitionAt?_barren_exchange (l : Layout) (n : Name) :
    Text.Barren (definitionAt? n.text) (l.firstElement ++ (l.exchange ++ ['}'])) := by
  have word := l.target.not_mem (c := '=') rfl
  have amount := l.amount.not_mem (c := '=') rfl
  have saved : ∀ s, functionBehind? (l.temporary.text ++ ['}'] ++ s) = none := by
    intro s
    have name := functionBehind?_name l.temporary (c := '}') rfl rfl (by decide) s
    simpa using name
  have other : ∀ s, functionBehind? (l.otherElement ++ s) = none := by
    intro s
    have name := functionBehind?_name l.target (c := '[') rfl rfl (by decide)
      (l.amount.text ++ '%' :: (l.target.text ++ ".length]".toList ++ s))
    simpa [otherElement] using name
  have last := definitionAt?_barren n (l.temporary.not_mem (c := '=') rfl) (c := '}')
    (by decide) rfl rfl
  have second := definitionAt?_barren_assignment n (v := l.otherElement ++ ';' :: l.otherElement)
    (by simp [otherElement, word, amount]) saved last
  have first := definitionAt?_barren_assignment n (v := l.firstElement ++ ';' :: l.firstElement)
    (by simp [firstElement, word]) (fun s => by
      rw [List.append_assoc, List.append_assoc]
      exact other _) second
  simpa [exchange] using first

/-- Nothing in a member is taken for the definition of a function of one parameter under a whole
name. -/
theorem definitionAt?_barren_member (l : Layout) (n : Name) (k : Kind) :
    Text.Barren (definitionAt? n.text) (l.member k).text := by
  have word := l.target.not_mem (c := '=') rfl
  have amount := l.amount.not_mem (c := '=') rfl
  have temporary := l.temporary.not_mem (c := '=') rfl
  have header := l.not_mem_header k
  rw [member_text]
  cases k with
  | reverse =>
    rw [← List.append_assoc]
    refine definitionAt?_barren n ?_ (by decide) rfl rfl
    rw [List.mem_append, not_or]
    exact ⟨header, by simp [work, word]⟩
  | slice =>
    rw [← List.append_assoc]
    refine definitionAt?_barren n ?_ (by decide) rfl rfl
    rw [List.mem_append, not_or]
    exact ⟨header, by simp [work, word, amount]⟩
  | swap =>
    have first : ∀ s, functionBehind? (l.firstElement ++ (l.exchange ++ ['}']) ++ s) = none := by
      intro s
      have name := functionBehind?_name l.target (c := '[') rfl rfl (by decide)
        ("0]".toList ++ (l.exchange ++ ['}'] ++ s))
      simpa [firstElement] using name
    have declared : '=' ∉ ((l.helper .swap).text ++ ':' :: (functionWord ++
        '(' :: (Text.join [','] ((l.parameters .swap).map Text.Span.text) ++ [')', '{']))) ++
          (['v', 'a', 'r', ' '] ++ l.temporary.text) := by
      rw [List.mem_append, not_or]
      exact ⟨header, by simp [temporary]⟩
    have whole :=
      definitionAt?_barren_assignment n declared first (l.definitionAt?_barren_exchange n)
    simpa [work] using whole

/-- Nor is anything in the object. -/
theorem definitionAt?_barren_object (l : Layout) (n : Name) :
    Text.Barren (definitionAt? n.text) (objectText l.object (l.order.map l.member)) := by
  have mark : ∀ c u, Text.isWordChar c = false → Text.Barren (definitionAt? n.text) u →
      Text.Barren (definitionAt? n.text) (c :: u) :=
    fun c u hc hu => .cons (fun s => definitionAt?_mark n hc _) hu
  have members : Text.Barren (definitionAt? n.text)
      (Text.join [','] ((l.order.map l.member).map Member.text)) := by
    refine .join (mark ',' [] rfl (.nil _)) ?_
    intro p hp
    obtain ⟨m, hm, rfl⟩ := List.mem_map.mp hp
    obtain ⟨k, -, rfl⟩ := List.mem_map.mp hm
    exact l.definitionAt?_barren_member n k
  have block := mark '{' _ rfl
    (members.append (mark '}' [';'] rfl (mark ';' [] rfl (.nil _))))
  have whole := definitionAt?_barren_assignment n (v := ['v', 'a', 'r', ' '] ++ l.object.text)
    (by simp [l.object.not_mem (c := '=') rfl])
    (fun s => functionBehind?_mark (c := '{') rfl rfl _) block
  simpa [objectText] using whole

/-- The first definition is that of the entry function. -/
theorem definition?_text (l : Layout) (is : List Instruction) :
    definition? l.entry.text (l.text is) = some (l.body is ++ (handing ++ l.use)) := by
  obtain ⟨rest, hr⟩ : ∃ rest, l.body is = '{' :: rest := ⟨_, l.body_eq is⟩
  have object := l.definitionAt?_barren_object l.entry
  have here := definitionAt?_function l.entry l.argument (rest ++ (handing ++ l.use))
  have front : objectText l.object (l.order.map l.member) =
      (['v', 'a', 'r', ' '] ++ l.object.text ++ ['=', '{'] ++
        Text.join [','] ((l.order.map l.member).map Member.text) ++ ['}']) ++ [';'] := by
    simp [objectText]
  rw [front] at object
  rw [definition?, text, front, List.append_assoc, List.singleton_append,
    Text.leftmostName_barren object, entryText, hr]
  exact Text.leftmostName_of_find here

/-- No brace stands inside the body, so that it is a block. -/
theorem block?_body (l : Layout) (is : List Instruction) (s : Text) :
    block? (l.body is ++ s) = some (l.body is) := by
  have opening : Inside plainMarks l.opening := by simp [plainMarks]
  have between : Inside plainMarks (')' :: l.between is) := by simp [plainMarks]
  have parenthesis : Inside plainMarks [')'] := by simp [plainMarks]
  have start : ∀ t, block? ('{' :: t) = (closing? .code 1 t).map ('{' :: ·) := fun _ => rfl
  have stop : closing? .code 1 ('}' :: s) = some ['}'] := rfl
  have front := fun t => closing?_plain opening.plain 1 t
  have middle := fun t => closing?_plain between.plain 1 t
  have back := fun t => closing?_plain parenthesis.plain 1 t
  simp only [List.cons_append, List.nil_append] at middle back
  simp only [body_eq, List.cons_append, List.append_assoc, start, front, closing?_emptyString,
    middle, back, stop, List.nil_append, Option.map_some]

/-- Its own closing brace is the first one. -/
theorem through?_body (l : Layout) (is : List Instruction) (s : Text) :
    Text.through? '}' (l.body is ++ s) = some (l.body is) := by
  have inside : Inside ['{', '=', '.', '(', ')', ',', ';', ' ', '"']
      ('{' :: (l.opening ++ '"' :: '"' :: ')' :: (l.between is ++ ['"', '"', ')']))) := by
    simp
  have whole : l.body is = ('{' :: (l.opening ++ '"' :: '"' :: ')' ::
      (l.between is ++ ['"', '"', ')']))) ++ ['}'] := by
    simp [body_eq]
  rw [whole, List.append_assoc, List.singleton_append]
  exact Text.through?_eq_some_iff.mpr ⟨_, s, rfl, inside.not_mem rfl (by simp), rfl⟩

/-- Both ways to end a body therefore find the same one. -/
theorem extract_text (l : Layout) (is : List Instruction) (extraction : Extraction) :
    extraction.extract l.entry.text (l.text is) = .ok (l.body is) := by
  have cut : extraction.cut? (l.body is ++ (handing ++ l.use)) = some (l.body is) := by
    cases extraction with
    | firstBrace => exact l.through?_body is _
    | balanced => exact l.block?_body is _
  rw [Extraction.extract_eq_ok_iff, definition?_text, Option.bind_some, cut]

end Layout
end Descramble.Script
