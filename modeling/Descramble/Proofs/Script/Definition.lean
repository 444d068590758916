import Descramble.Proofs.Text.Name
import Descramble.Script.Function

namespace Descramble.Script

open Text (Name)

def functionName : Name := ⟨functionWord, by simp [functionWord], rfl⟩

def functionBehind? (s : Text) : Option Text := do
  let s ← (functionWord.isPrefixOf? (Text.skipBlank s)).bind (Text.symbol? '(')
  let (_, s) ← Text.word? (Text.skipBlank s)
  let s ← Text.symbol? ')' s
  let s ← Text.symbol? '{' s
  return '{' :: s

theorem definitionAt?_eq (name s : Text) : definitionAt? name s =
    ((name.isPrefixOf? s).bind (Text.symbol? '=')).bind functionBehind? := by
  simp only [definitionAt?, Option.bind_eq_bind, Option.bind_assoc]
  refine Option.bind_congr fun t _ => Option.bind_congr fun r _ => ?_
  simp only [functionBehind?, Option.bind_eq_bind, Option.bind_assoc]

theorem definitionAt?_mark (n : Name) (hc : Text.isWordChar c = false) (s : Text) :
    definitionAt? n.text (c :: s) = none := by
  rw [definitionAt?_eq, n.isPrefixOf?_mark hc]
  rfl

/-- A definition that begins in front of the first equals sign has its function behind that sign. -/
theorem definitionAt?_eq_none (n : Name) (hv : '=' ∉ v) (hs : functionBehind? s = none) :
    definitionAt? n.text (v ++ '=' :: s) = none := by
  rw [definitionAt?_eq]
  cases hr : (n.text.isPrefixOf? (v ++ '=' :: s)).bind (Text.symbol? '=') with
  | none => rfl
  | some r =>
    obtain ⟨front, hf, word⟩ := n.eq_of_bind_symbol? hr
    have outside : '=' ∉ front := by
      intro h
      have := word '=' h
      contradiction
    have before : Text.upTo? '=' (v ++ '=' :: s) = some (v, s) := Text.upTo?_append hv
    rw [hf, Text.upTo?_append outside] at before
    simp only [Option.some.injEq, Prod.mk.injEq] at before
    rw [Option.bind_some, before.2, hs]

/-- Text without an equals sign hides no definition. -/
theorem definitionAt?_barren (n : Name) (hu : '=' ∉ u) (hne : c ≠ '=')
    (hw : Text.isWordChar c = false) (hb : Text.isBlank c = false) :
    Text.Barren (definitionAt? n.text) (u ++ [c]) := by
  refine Text.barren_of_mark ?_ hu hne hw hb
  intro t ht
  cases ho : (n.text.isPrefixOf? t).bind (Text.symbol? '=') with
  | none =>
    rw [definitionAt?_eq, ho] at ht
    exact absurd rfl ht
  | some r =>
    obtain ⟨front, hf, word⟩ := n.eq_of_bind_symbol? ho
    exact ⟨front, r, hf, word⟩

/-- Nor does an assignment of something that is not a function. -/
theorem definitionAt?_barren_assignment (n : Name) (hv : '=' ∉ v)
    (hf : ∀ s, functionBehind? (u ++ s) = none) (hu : Text.Barren (definitionAt? n.text) u) :
    Text.Barren (definitionAt? n.text) (v ++ '=' :: u) := by
  induction v with
  | nil => exact .cons (fun s => definitionAt?_mark n rfl _) hu
  | cons c v ih =>
    have hcv : '=' ∉ v := fun h => hv (List.mem_cons_of_mem c h)
    refine .cons (u := v ++ '=' :: u) ?_ (ih hcv)
    intro s
    have missed := definitionAt?_eq_none n hv (hf s)
    simpa using missed

theorem functionBehind?_mark (hc : Text.isWordChar c = false) (hb : Text.isBlank c = false)
    (s : Text) : functionBehind? (c :: s) = none := by
  have start : Text.skipBlank (c :: s) = c :: s := by simp [Text.skipBlank_cons, hb]
  have first : functionWord.isPrefixOf? (c :: s) = none :=
    functionName.isPrefixOf?_mark hc s
  rw [functionBehind?, start, first]
  rfl

/-- A word in front of a mark is no function, not even if it begins like one. -/
theorem functionBehind?_name (n : Name) (hc : Text.isWordChar c = false)
    (hb : Text.isBlank c = false) (hne : c ≠ '(') (s : Text) :
    functionBehind? (n.text ++ c :: s) = none := by
  have other := functionName.isPrefixOf?_bind_symbol? n (c := '(') rfl hc s
  rw [Text.symbol?_cons_ne hb hne, ite_self, functionName] at other
  rw [functionBehind?, n.skipBlank_append, other]
  rfl

/-- The definition of a function is found where its name may begin. -/
theorem definitionAt?_function (n parameter : Name) (s : Text) :
    definitionAt? n.text
        (n.text ++ '=' :: (functionWord ++ '(' :: (parameter.text ++ ')' :: '{' :: s))) =
      some ('{' :: s) := by
  have start : ∀ t, Text.skipBlank (functionWord ++ t) = functionWord ++ t := fun _ => rfl
  rw [definitionAt?_eq, Text.isPrefixOf?_append, Option.bind_some, Text.symbol?_cons rfl,
    Option.bind_some, functionBehind?, start, Text.isPrefixOf?_append, Option.bind_some,
    Text.symbol?_cons rfl]
  simp only [Option.bind_eq_bind, Option.bind_some, parameter.skipBlank_append,
    parameter.word?_append (c := ')') rfl, Text.symbol?_cons (c := ')') rfl,
    Text.symbol?_cons (c := '{') rfl, Option.pure_def]

end Descramble.Script
