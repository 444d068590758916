import Descramble.Proofs.Text.Pieces
import Descramble.Script.Helper

namespace Descramble.Script

open Text (Name)

/-- A function that is a member of an object. Nothing in its body opens another one. -/
structure Member where
  name : Name
  parameters : List Name
  body : Text
  colonFree : ':' ∉ body
  braceFree : '}' ∉ body

namespace Member

def function (m : Member) : Text :=
  functionWord ++ ['('] ++ Text.join [','] (m.parameters.map Text.Span.text) ++ [')', '{'] ++
    m.body ++
    ['}']

def text (m : Member) : Text := m.name.text ++ ':' :: m.function

def helper (m : Member) : Helper := ⟨m.parameters.map Text.Span.text, m.body⟩

end Member

def objectText (object : Name) (members : List Member) : Text :=
  ['v', 'a', 'r', ' '] ++ object.text ++ ['=', '{'] ++ Text.join [','] (members.map Member.text) ++
    ['}', ';']

theorem not_mem_parameters (ps : List Name) (hc : Text.isWordChar c = false) (hne : c ≠ ',') :
    c ∉ Text.join [','] (ps.map Text.Span.text) := by
  intro h
  rcases Text.mem_join h with h | ⟨p, hp, h⟩
  · exact hne (List.mem_singleton.mp h)
  · obtain ⟨n, -, rfl⟩ := List.mem_map.mp hp
    exact n.not_mem hc h

theorem parameterList_join (ps : List Name) :
    parameterList (Text.join [','] (ps.map Text.Span.text)) = ps.map Text.Span.text := by
  cases ps with
  | nil => rfl
  | cons p ps =>
    have separate : ∀ w ∈ (p :: ps).map Text.Span.text, ',' ∉ w := by
      intro w hw
      obtain ⟨n, -, rfl⟩ := List.mem_map.mp hw
      exact n.not_mem rfl
    have trimmed : ((p :: ps).map Text.Span.text).map Text.trim = (p :: ps).map Text.Span.text := by
      simp [Text.Name.trim_text]
    rw [parameterList, Text.pieces_join ',' separate (by simp), trimmed, List.filter_eq_self]
    intro w hw
    obtain ⟨n, -, rfl⟩ := List.mem_map.mp hw
    simp [n.nonempty]

theorem Member.colon_not_mem_function (m : Member) : ':' ∉ m.function := by
  have parameters := not_mem_parameters m.parameters (c := ':') rfl (by decide)
  simp [Member.function, functionWord, parameters, m.colonFree]

/-- A search for members finds a member where it stands under its own name. -/
theorem helperAt?_member (m : Member) (s : Text) :
    helperAt? m.name.text (m.text ++ s) = some (m.helper, s) := by
  have start : ∀ t, Text.skipBlank (functionWord ++ t) = functionWord ++ t := fun _ => rfl
  have parameters := not_mem_parameters m.parameters (c := ')') rfl (by decide)
  simp only [helperAt?, Member.text, Member.function, List.append_assoc, List.cons_append,
    List.nil_append, Text.isPrefixOf?_append, Option.bind_eq_bind, Option.bind_some,
    Text.symbol?_cons (c := ':') rfl, start, Text.symbol?_cons (c := '(') rfl,
    Text.upTo?_append parameters, Text.symbol?_cons (c := '{') rfl,
    Text.upTo?_append m.braceFree, parameterList_join, Member.helper, Option.pure_def]

theorem helperAt?_eq_none (h : (name.isPrefixOf? s).bind (Text.symbol? ':') = none) :
    helperAt? name s = none := by
  rw [Option.bind_eq_none_iff] at h
  simp only [helperAt?, Option.bind_eq_bind, Option.bind_eq_none_iff]
  intro r hr t ht
  simp [h r hr] at ht

theorem helperAt?_mark (n : Name) (hc : Text.isWordChar c = false) (s : Text) :
    helperAt? n.text (c :: s) = none :=
  helperAt?_eq_none (by rw [n.isPrefixOf?_mark hc, Option.bind_none])

theorem helperAt?_other (n m : Name) (hne : n.text ≠ m.text) (s : Text) :
    helperAt? n.text (m.text ++ ':' :: s) = none :=
  helperAt?_eq_none (by rw [n.isPrefixOf?_bind_symbol? m rfl rfl, if_neg hne])

theorem helperAt?_reads (n : Name) (h : helperAt? n.text t ≠ none) :
    ∃ front rest, t = front ++ ':' :: rest ∧
      ∀ d ∈ front, Text.isWordChar d = true ∨ Text.isBlank d = true := by
  cases ho : (n.text.isPrefixOf? t).bind (Text.symbol? ':') with
  | none => exact absurd (helperAt?_eq_none ho) h
  | some r =>
    obtain ⟨front, hf, word⟩ := n.eq_of_bind_symbol? ho
    exact ⟨front, r, hf, word⟩

/-- Text without a colon hides no member. -/
theorem helperAt?_barren (n : Name) (hu : ':' ∉ u) (hne : c ≠ ':')
    (hw : Text.isWordChar c = false) (hb : Text.isBlank c = false) :
    Text.Barren (helperAt? n.text) (u ++ [c]) :=
  Text.barren_of_mark (fun _ h => helperAt?_reads n h) hu hne hw hb

theorem helperAt?_noColon (n : Name) (hs : ':' ∉ s) : helperAt? n.text s = none := by
  by_contra found
  obtain ⟨front, rest, rfl, -⟩ := helperAt?_reads n found
  simp at hs

/-- Where a name may begin, a member is found if it has the name, and passed over otherwise. -/
theorem eachName_member (n : Name) (m : Member) (hw : Text.isWordChar c = false)
    (hb : Text.isBlank c = false) (hne : c ≠ ':') (hdot : c ≠ '.') (s : Text) :
    Text.eachName (helperAt? n.text) 0 true (m.text ++ c :: s) =
      (if m.name.text = n.text then [m.helper] else []) ++
        Text.eachName (helperAt? n.text) 0 true s := by
  have behind : Text.bounds c = true := by simp [Text.bounds, hw, hdot]
  by_cases he : m.name.text = n.text
  · have found := helperAt?_member m (c :: s)
    obtain ⟨d, w, hd, -⟩ := m.name.exists_cons
    have first : m.text = d :: (w ++ ':' :: m.function) := by rw [Member.text, hd]; rfl
    rw [he, first, List.cons_append] at found
    rw [if_pos he, first, List.cons_append, Text.eachName_find found, Text.eachName]
    simp [behind]
  · have barren : Text.Barren (helperAt? n.text) ((':' :: m.function) ++ [c]) :=
      .cons (fun t => helperAt?_mark n rfl _)
        (helperAt?_barren n m.colon_not_mem_function hne hw hb)
    have pass := helperAt?_other n m.name (Ne.symm he) (m.function ++ c :: s)
    rw [if_neg he, List.nil_append, Member.text, List.append_assoc, List.cons_append,
      Text.eachName_name m.name pass, ← List.cons_append, Text.eachName_barren barren, behind]

/-- All members of a name are found, in the order of the object. -/
theorem eachName_members (n : Name) (members : List Member) (s : Text) :
    Text.eachName (helperAt? n.text) 0 true
        (Text.join [','] (members.map Member.text) ++ '}' :: s) =
      (members.filter fun m => m.name.text = n.text).map Member.helper ++
        Text.eachName (helperAt? n.text) 0 true s := by
  induction members with
  | nil =>
    have brace := helperAt?_mark n (c := '}') rfl s
    simp [Text.join, Text.eachName, brace, show Text.bounds '}' = true from rfl]
  | cons m members ih =>
    cases members with
    | nil =>
      rw [List.map_singleton, Text.join, List.intercalate_singleton,
        eachName_member n m rfl rfl (by decide) (by decide)]
      by_cases he : m.name.text = n.text <;> simp [he]
    | cons k members =>
      rw [List.map_cons, List.map_cons, Text.join, List.intercalate_cons_cons, ← List.map_cons,
        List.append_assoc, List.append_assoc, List.singleton_append,
        eachName_member n m rfl rfl (by decide) (by decide)]
      rw [Text.join] at ih
      rw [ih]
      by_cases he : m.name.text = n.text <;> simp [he]

/-- The members of a name are found in an object, and nothing else is, neither in the object nor in
a text without colons behind it. -/
theorem helpers_objectText (n object : Name) (members : List Member) (hs : ':' ∉ s) :
    helpers n.text (objectText object members ++ s) =
      (members.filter fun m => m.name.text = n.text).map Member.helper := by
  have opening : Text.Barren (helperAt? n.text)
      ((['v', 'a', 'r', ' '] ++ object.text ++ ['=']) ++ ['{']) := by
    apply helperAt?_barren n _ (by decide) rfl rfl
    simp [object.not_mem (c := ':') rfl]
  have closing : ∀ v, v <:+ ';' :: s → helperAt? n.text v = none := by
    intro v hv
    apply helperAt?_noColon
    intro h
    simpa [hs] using hv.subset h
  have whole : objectText object members ++ s = (['v', 'a', 'r', ' '] ++ object.text ++ ['=']) ++
      '{' :: (Text.join [','] (members.map Member.text) ++ '}' :: ';' :: s) := by
    simp [objectText]
  rw [helpers, whole, Text.eachName_barren opening, show Text.bounds '{' = true from rfl,
    eachName_members, Text.eachName_eq_nil closing, List.append_nil]

/-- A search in an object finds exactly the members of the name, with their parameters and bodies
and in their order. Names may be repeated or be parts of each other, and bodies may hold anything
but a colon or a closing brace. -/
theorem helpers_object_members (n object : Name) (members : List Member) :
    helpers n.text (objectText object members) =
      (members.filter fun m => m.name.text = n.text).map Member.helper := by
  have alone := helpers_objectText n object members (s := []) List.not_mem_nil
  rwa [List.append_nil] at alone

/-- One name ends with another, and a body opens a brace and quotes a member. -/
example : helpers ['f']
    ("var O=\x7baf:function()\x7b\x7d,f:function(a,b)\x7bif(a)\x7b'f',b\x7d,".toList ++
      "f:function()\x7b\x7d\x7d;".toList) =
    [⟨[['a'], ['b']], "if(a)\x7b'f',b".toList⟩, ⟨[], []⟩] := by decide

end Descramble.Script
