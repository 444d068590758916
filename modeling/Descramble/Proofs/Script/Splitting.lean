import Descramble.Proofs.Text.Avoids
import Descramble.Proofs.Text.Trim
import Descramble.Script.Classify

namespace Descramble.Script

open Text (Gap Trimmed)

variable {body s : Text}

structure IsStatement (s : Text) : Prop where
  nonempty : s ≠ []
  whole : ';' ∉ s
  trimmed : Trimmed s

/-- What stands between two semicolons: a statement with blanks around it, or blanks only. -/
inductive Part
  | blank (gap : Gap)
  | padded (before : Gap) (s : Text) (isStatement : IsStatement s) (behind : Gap)

namespace Part

def text : Part → Text
  | blank gap => gap.text
  | padded before s _ behind => before.text ++ (s ++ behind.text)

def statement? : Part → Option Text
  | blank _ => none
  | padded _ s _ _ => some s

@[simp] theorem statement?_blank (gap : Gap) : (blank gap).statement? = none := rfl

@[simp] theorem statement?_padded (before behind : Gap) (isStatement : IsStatement s) :
    (padded before s isStatement behind).statement? = some s := rfl

theorem whole (p : Part) : ';' ∉ p.text := by
  cases p with
  | blank gap => exact gap.not_mem rfl
  | padded before s isStatement behind =>
    exact List.not_mem_append (before.not_mem rfl)
      (List.not_mem_append isStatement.whole (behind.not_mem rfl))

/-- Any text without a semicolon is a part. -/
theorem exists_text (h : ';' ∉ s) : ∃ p : Part, p.text = s := by
  obtain ⟨before, behind, padding⟩ := Text.exists_padding s
  by_cases nothing : Text.trim s = []
  · rw [nothing, List.nil_append] at padding
    have blank : (before.text ++ behind.text).all Text.isBlank = true := by
      rw [List.all_append, before.passes, behind.passes]
      rfl
    exact ⟨.blank ⟨_, blank⟩, padding.symm⟩
  · have inside : ';' ∉ Text.trim s := by
      intro mem
      apply h
      rw [padding]
      exact List.mem_append_right _ (List.mem_append_left _ mem)
    exact ⟨.padded before _ ⟨nothing, inside, Text.trimmed_trim s⟩ behind, padding.symm⟩

theorem exists_texts (h : ∀ s ∈ ss, ';' ∉ s) : ∃ ps : List Part, ps.map text = ss := by
  induction ss with
  | nil => exact ⟨[], rfl⟩
  | cons s ss ih =>
    obtain ⟨hs, hss⟩ := List.forall_mem_cons.mp h
    obtain ⟨p, rfl⟩ := exists_text hs
    obtain ⟨ps, rfl⟩ := ih hss
    exact ⟨p :: ps, rfl⟩

theorem filter_trim (ps : List Part) :
    ((ps.map text).map Text.trim).filter (!·.isEmpty) = ps.filterMap statement? := by
  induction ps with
  | nil => rfl
  | cons p ps ih =>
    rw [List.map_cons, List.map_cons]
    cases p with
    | blank gap =>
      have nothing : Text.trim (blank gap).text = [] := Text.trim_gap gap
      rw [nothing, List.filter_cons_of_neg (by simp),
        List.filterMap_cons_none (statement?_blank gap), ih]
    | padded before s isStatement behind =>
      have left : Text.trim (padded before s isStatement behind).text = s :=
        isStatement.trimmed.trim_padded before behind
      have kept : (!s.isEmpty) = true := by simpa using isStatement.nonempty
      rw [left, List.filter_cons, if_pos kept, ih]
      rfl

end Part

/-- A body with semicolons. Statements are neither in front of the first one nor behind the
last one. -/
structure Division where
  first : Text
  parts : List Part
  last : Text
  firstWhole : ';' ∉ first
  lastWhole : ';' ∉ last

namespace Division

def text (d : Division) : Text := Text.join [';'] (d.first :: (d.parts.map Part.text ++ [d.last]))

theorem pieces_text (d : Division) :
    Text.pieces (· == ';') d.text = d.first :: (d.parts.map Part.text ++ [d.last]) := by
  refine Text.pieces_join ';' ?_ (List.cons_ne_nil _ _)
  intro p hp
  rcases List.mem_cons.mp hp with rfl | hp
  · exact d.firstWhole
  · rcases List.mem_append.mp hp with hp | hp
    · obtain ⟨part, -, rfl⟩ := List.mem_map.mp hp
      exact part.whole
    · exact List.mem_singleton.mp hp ▸ d.lastWhole

/-- The parts give the statements, in their order. -/
theorem statements_text (d : Division) :
    statements d.text = d.parts.filterMap Part.statement? := by
  rw [statements, d.pieces_text, List.tail_cons, List.dropLast_concat, Part.filter_trim]

end Division

/-- A body without a semicolon has no statements. -/
theorem statements_eq_nil (h : ';' ∉ body) : statements body = [] := by
  have avoids : Text.Avoids (· == ';') body := by
    intro c hc
    rw [beq_eq_false_iff_ne]
    rintro rfl
    exact h hc
  rw [statements, Text.pieces_of_avoids avoids]
  rfl

/-- There is one way at least to read a body with a semicolon. -/
theorem exists_division (h : ';' ∈ body) : ∃ d : Division, d.text = body := by
  have whole : ∀ p ∈ Text.pieces (· == ';') body, ';' ∉ p :=
    fun p hp => (Text.pieces_avoid _ body p hp).not_mem rfl
  have joined : Text.join [';'] (Text.pieces (· == ';') body) = body := by
    rw [Text.pieces_eq_splitOnP, ← List.splitOn_eq_splitOnP]
    exact List.intercalate_splitOn ';'
  cases all : Text.pieces (· == ';') body with
  | nil => exact absurd all (Text.pieces_ne_nil _ body)
  | cons first rest =>
    rw [all] at whole joined
    rcases List.eq_nil_or_concat rest with rfl | ⟨between, last, rfl⟩
    · have only : first = body := by simpa [Text.join] using joined
      exact absurd (only ▸ h) (whole first List.mem_cons_self)
    · rw [List.concat_eq_append] at whole joined
      obtain ⟨firstWhole, rest⟩ := List.forall_mem_cons.mp whole
      obtain ⟨betweenWhole, lastWhole⟩ := List.forall_mem_append.mp rest
      obtain ⟨parts, rfl⟩ := Part.exists_texts betweenWhole
      exact ⟨⟨first, parts, last, firstWhole, lastWhole last List.mem_cons_self⟩, joined⟩

/-- The statements stand in the text one behind the other, each between two semicolons with only
blanks around it. -/
inductive InTurn : List Text → Text → Prop
  | nil (s : Text) : InTurn [] s
  | cons (front : Text) (before behind : Gap) (s : Text) (closed : rest.head? = some ';')
      (next : InTurn ss rest) :
      InTurn (s :: ss) (front ++ ';' :: (before.text ++ (s ++ (behind.text ++ rest))))

theorem InTurn.append (h : InTurn ss s) (front : Text) : InTurn ss (front ++ s) := by
  cases h with
  | nil => exact .nil _
  | cons front' before behind s closed next =>
    rw [← List.append_assoc]
    exact .cons (front ++ front') before behind s closed next

theorem InTurn.parts (ps : List Part) (last : Text) :
    InTurn (ps.filterMap Part.statement?) (ps.flatMap (';' :: ·.text) ++ ';' :: last) := by
  induction ps with
  | nil => exact .nil _
  | cons p ps ih =>
    rw [List.flatMap_cons, List.append_assoc]
    cases p with
    | blank gap => exact ih.append _
    | padded before s isStatement behind =>
      have closed : (ps.flatMap (';' :: ·.text) ++ ';' :: last).head? = some ';' := by
        cases ps <;> rfl
      have turn := InTurn.cons [] before behind s closed ih
      rw [List.filterMap_cons_some (Part.statement?_padded before behind isStatement)]
      simpa only [Part.text, List.nil_append, List.cons_append, List.append_assoc] using turn

theorem Division.inTurn (d : Division) : InTurn (statements d.text) d.text := by
  have ends : d.text = d.first ++ (d.parts.flatMap (';' :: ·.text) ++ ';' :: d.last) := by
    rw [Division.text, Text.join_ends, List.flatMap_map]
    rfl
  rw [d.statements_text, ends]
  exact (InTurn.parts d.parts d.last).append d.first

theorem statements_inTurn (body : Text) : InTurn (statements body) body := by
  by_cases divided : ';' ∈ body
  · obtain ⟨d, rfl⟩ := exists_division divided
    exact d.inTurn
  · rw [statements_eq_nil divided]
    exact .nil body

theorem isStatement_of_mem (h : s ∈ statements body) : IsStatement s := by
  by_cases divided : ';' ∈ body
  · obtain ⟨d, rfl⟩ := exists_division divided
    rw [d.statements_text] at h
    obtain ⟨part, -, found⟩ := List.mem_filterMap.mp h
    cases part with
    | blank gap => cases found
    | padded before s isStatement behind => exact Option.some.inj found ▸ isStatement
  · rw [statements_eq_nil divided] at h
    cases h

/-- Statements are found in their order wherever they are written, with any blanks around them and
blank parts between them. Of whatever body, all that is found are statements, and each of them
stands between two semicolons of its own behind the one before it. -/
theorem statements_recovered :
    (∀ d : Division, statements d.text = d.parts.filterMap Part.statement?) ∧
      ∀ body, (∀ s ∈ statements body, IsStatement s) ∧ InTurn (statements body) body :=
  ⟨Division.statements_text, fun body => ⟨fun _ => isStatement_of_mem, statements_inTurn body⟩⟩

/-- Blanks of any kind are left out around statements, and what is blank throughout is none. -/
example : statements "\x7ba; b\u2003;;\n;c d;\x7d".toList = ["b".toList, "c d".toList] := by decide

end Descramble.Script
