import Descramble.Proofs.Script.Classification
import Descramble.Proofs.Script.Form
import Descramble.Proofs.Script.Policy
import Descramble.Proofs.Text.Extension

namespace Descramble.Script

open Text (Name Unmoved)

/-- A use of the key that began in front of another one and reached beyond it would have its key
overlap the other's parenthesis, but a key that long would not leave room for itself. -/
theorem entryAt?_missed (here : entryAt? key u = some n) (behind : v ≠ [])
    (missed : entryAt? key (v ++ u) = none) (t : Text) : entryAt? key (v ++ (u ++ t)) = none := by
  by_contra found
  obtain ⟨m, found⟩ := Option.ne_none_iff_exists'.mp found
  obtain ⟨e, r, rfl, rfl⟩ := entryAt?_eq_some_iff.mp here
  obtain ⟨long, s, split, rfl⟩ := entryAt?_eq_some_iff.mp found
  obtain ⟨c, v, rfl⟩ := List.exists_cons_of_ne_nil behind
  have parts : (v ++ e.opening :: key) ++ (e.link ++ '(' :: (r ++ t)) =
      key ++ (long.link ++ '(' :: s) := by
    simpa using (List.cons.inj split).2
  obtain ⟨a, short, -⟩ | ⟨a, front, links⟩ := List.append_eq_append_iff.mp parts
  · have lengths := congrArg List.length short
    simp only [List.length_append, List.length_cons] at lengths
    omega
  · have marks : (a ++ e.link) ++ '(' :: (r ++ t) = long.link ++ '(' :: s := by
      rw [links, List.append_assoc]
    obtain ⟨w, inside⟩ := Text.within_of_mark marks long.parenthesis_not_mem
    have again : c :: v ++ e.opening :: (key ++ (e.link ++ '(' :: r)) =
        long.opening :: (key ++ (long.link ++ '(' :: (w ++ r))) := by
      calc c :: v ++ e.opening :: (key ++ (e.link ++ '(' :: r))
        _ = c :: ((v ++ e.opening :: key) ++ (e.link ++ ['('] ++ r)) := by simp
        _ = c :: (key ++ ((a ++ e.link ++ ['(']) ++ r)) := by rw [front]; simp
        _ = long.opening :: (key ++ (long.link ++ '(' :: (w ++ r))) := by
          rw [inside, (List.cons.inj split).1]
          simp
    rw [again, long.entryAt?_link] at missed
    cases missed

theorem entryAt?_unmoved (key t : Text) : Unmoved (entryAt? key) t id := by
  constructor
  · intro u n here
    obtain ⟨e, r, rfl, rfl⟩ := entryAt?_eq_some_iff.mp here
    exact entryAt?_eq_some_iff.mpr ⟨e, r ++ t, by simp, rfl⟩
  · intro u n v here behind missed
    exact entryAt?_missed here behind missed t

/-- Text behind a script does not change which definition is found, but only how far it goes. -/
theorem definitionAt?_unmoved (hn : '{' ∉ name) (t : Text) :
    Unmoved (definitionAt? name) t (· ++ t) := by
  constructor
  · intro u r here
    obtain ⟨h, rest, rfl, rfl⟩ := definitionAt?_eq_some_iff.mp here
    exact definitionAt?_eq_some_iff.mpr ⟨h, rest ++ t, by simp, rfl⟩
  · -- The longer header would hold the brace of the one behind it.
    intro u r v here behind missed
    by_contra found
    obtain ⟨r', found⟩ := Option.ne_none_iff_exists'.mp found
    obtain ⟨h, rest, rfl, rfl⟩ := definitionAt?_eq_some_iff.mp here
    obtain ⟨long, rest', split, rfl⟩ := definitionAt?_eq_some_iff.mp found
    have whole : v ++ h.front name ++ '{' :: (rest ++ t) = long.front name ++ '{' :: rest' := by
      simpa using split
    obtain ⟨w, inside⟩ := Text.within_of_mark whole (long.brace_not_mem hn)
    have again : v ++ (h.front name ++ '{' :: rest) = long.front name ++ '{' :: (w ++ rest) := by
      have := congrArg (· ++ rest) inside
      simpa using this
    rw [again, long.definitionAt?_front] at missed
    cases missed

theorem findEntry_append (found : findEntry key script = .ok entry) (t : Text) :
    findEntry key (script ++ t) = .ok entry := by
  rw [findEntry_eq_ok_iff] at found ⊢
  exact (entryAt?_unmoved key t).leftmost found

/-- A function that is found has a word for its name. -/
theorem findEntry_isName (found : findEntry key script = .ok entry) :
    ∃ n : Name, n.text = entry := by
  obtain ⟨before, u, -, here, -⟩ := Text.leftmost_eq_some.mp (findEntry_eq_ok_iff.mp found)
  obtain ⟨e, -, -, rfl⟩ := entryAt?_eq_some_iff.mp here
  exact ⟨e.name, rfl⟩

theorem through?_append (h : Text.through? c s = some u) (t : Text) :
    Text.through? c (s ++ t) = some u := by
  obtain ⟨before, behind, rfl, outside, rfl⟩ := Text.through?_eq_some_iff.mp h
  exact Text.through?_eq_some_iff.mpr ⟨before, behind ++ t, by simp, outside, rfl⟩

/-- A block that is closed stays closed, whatever follows. -/
theorem closing?_append (h : closing? region depth s = some u) (t : Text) :
    closing? region depth (s ++ t) = some u := by
  induction s generalizing region depth u with
  | nil => cases h
  | cons c s ih =>
    have deeper : ∀ {region depth u}, (closing? region depth s).map (c :: ·) = some u →
        (closing? region depth (s ++ t)).map (c :: ·) = some u := by
      intro region depth u h
      obtain ⟨block, closed, rfl⟩ := Option.map_eq_some_iff.mp h
      rw [ih closed, Option.map_some]
    rw [List.cons_append]
    unfold closing? at h ⊢
    split
    · next opens =>
      rw [if_pos opens] at h
      exact deeper h
    · next inert =>
      rw [if_neg inert] at h
      split
      · next closes =>
        rw [if_pos closes] at h
        cases depth with
        | zero => cases h
        | succ depth =>
          cases depth with
          | zero => exact h
          | succ depth => exact deeper h
      · next inert =>
        rw [if_neg inert] at h
        exact deeper h

theorem Extraction.cut?_append {e : Extraction} (h : e.cut? s = some body) (t : Text) :
    e.cut? (s ++ t) = some body := by
  cases e with
  | firstBrace => exact through?_append h t
  | balanced => exact closing?_append h t

/-- A body that has been cut out stays the same, whatever follows the script. -/
theorem Extraction.extract_append {e : Extraction} (n : Name)
    (h : e.extract n.text script = .ok body) (t : Text) :
    e.extract n.text (script ++ t) = .ok body := by
  have brace : '{' ∉ n.text := fun hb => Bool.false_ne_true (n.forall_mem '{' hb)
  rw [extract_eq_ok_iff] at h ⊢
  obtain ⟨r, header, cut⟩ := Option.bind_eq_some_iff.mp h
  have header := (definitionAt?_unmoved brace t).leftmostName header
  rw [definition?, header, Option.bind_some, cut?_append cut]

/-- Every member ends with a closing brace, so none reaches into a text without one. -/
theorem helperAt?_append (ht : '}' ∉ t) (name s : Text) :
    helperAt? name (s ++ t) = (helperAt? name s).map fun p => (p.1, p.2 ++ t) := by
  cases here : helperAt? name s with
  | some p =>
    obtain ⟨m, rfl, helper⟩ := helperAt?_eq_some_iff.mp here
    rw [List.append_assoc, List.cons_append, m.helperAt?_front, ← helper]
    rfl
  | none =>
    by_contra found
    obtain ⟨p, found⟩ := Option.ne_none_iff_exists'.mp found
    obtain ⟨m, split, -⟩ := helperAt?_eq_some_iff.mp found
    obtain ⟨w, rfl, -⟩ := Text.split_before split ht
    rw [m.helperAt?_front] at here
    cases here

/-- Without a closing brace behind the script no member is completed there. -/
theorem helpers_append (ht : '}' ∉ t) (name script : Text) :
    helpers name (script ++ t) = helpers name script := by
  apply Text.eachName_append (helperAt?_append ht name)
  intro v hv
  have outside : '}' ∉ v := fun h => ht (hv.subset h)
  by_contra found
  obtain ⟨p, found⟩ := Option.ne_none_iff_exists'.mp found
  obtain ⟨m, rfl, -⟩ := helperAt?_eq_some_iff.mp found
  simp at outside

/-- A script matters for the bindings by the kinds of its helpers only. -/
theorem classifyFrom_script
    (same : ∀ name, helperKind? rules script' name = helperKind? rules script name)
    (tried : List Text) (b : Bindings) (ss : List Text) :
    classifyFrom rules script' tried b ss = classifyFrom rules script tried b ss := by
  induction ss generalizing tried b with
  | nil => rfl
  | cons s ss ih => simp only [classifyFrom_cons, same, ih]

theorem classify_append (ht : '}' ∉ t) (rules : List Rule) (script : Text) (ss : List Text) :
    classify rules (script ++ t) ss = classify rules script ss := by
  apply classifyFrom_script
  intro name
  rw [helperKind?, helpers_append ht, helperKind?]

/-- Once a script has its entry and the entry has its body, text without a closing brace can be
appended: neither the program changes nor the fault, which is that of a statement. -/
theorem Parser.parse_append (p : Parser) (script t entry body : Text)
    (found : findEntry p.key script = .ok entry)
    (cut : p.extraction.extract entry script = .ok body) (unclosed : '}' ∉ t) :
    p.parse (script ++ t) = p.parse script ∧
    ∀ fault, p.parse script = .error fault → (∃ call, fault = .unknownOperation call) ∨
      (∃ kind s, fault = .missingOperand kind s) ∨ ∃ cause, fault = .badNumeral cause := by
  obtain ⟨n, rfl⟩ := findEntry_isName found
  have whole : p.parse script =
      sequence p.policy (classify p.rules script (statements body)) (statements body) := by
    simp only [parse_steps, found, cut, bind, Except.bind]
  have longer : p.parse (script ++ t) =
      sequence p.policy (classify p.rules (script ++ t) (statements body)) (statements body) := by
    simp only [parse_steps, findEntry_append found t, Extraction.extract_append n cut t, bind,
      Except.bind]
  constructor
  · rw [longer, whole, classify_append unclosed]
  · intro fault failed
    rw [whole] at failed
    obtain ⟨s, refused⟩ := sequence_error failed
    cases refused with
    | uncalled => exact .inl ⟨_, rfl⟩
    | unbound => exact .inl ⟨_, rfl⟩
    | absent => exact .inr (.inl ⟨_, _, rfl⟩)
    | unreadable => exact .inr (.inr ⟨_, rfl⟩)

def brokenOff : Text :=
  "O={r:function(p){p.reverse()}};f=function(a){a;O.r(a);a};d.set('signature',f(c));".toList ++
    "Q=\x7br:function(p,q".toList

/-- What is appended ends the parameters, and begins another definition and use of the key. -/
theorem Parser.parse_append_brokenOff :
    let t := ")\x7bf=function(a)\x7bb;O.r(b);O.r(b);d.set('signature',g(c))".toList
    findEntry defaultKey brokenOff = .ok ['f'] ∧
    Extraction.firstBrace.extract ['f'] brokenOff = .ok "{a;O.r(a);a}".toList ∧
    '}' ∉ t ∧ Parser.parse {} (brokenOff ++ t) = .ok [.reverse] := by
  intro t
  have found : findEntry defaultKey brokenOff = .ok ['f'] := rfl
  have cut : Extraction.firstBrace.extract ['f'] brokenOff = .ok "{a;O.r(a);a}".toList := rfl
  have unclosed : '}' ∉ t := by decide
  have alone : Parser.parse {} brokenOff = .ok [.reverse] := rfl
  refine ⟨found, cut, unclosed, ?_⟩
  rw [(parse_append {} brokenOff t _ _ found cut unclosed).1, alone]

end Descramble.Script
