import Descramble.Proofs.Json.Member
import Descramble.Proofs.Json.Scalar
import Descramble.Proofs.Script.Choice
import Descramble.Proofs.Text.Utf8

namespace Descramble.Script.Options

open Json

/-- The ways to write a member of an options document: it chooses the value of an option, or it is
of no concern. -/
inductive WrittenEntry : List Choice → Text → Prop
  | choice (member : WrittenMember c.field.name (Written 0 (.string c.text)) t) :
    WrittenEntry [c] t
  | other (unknown : ∀ f : Field, name ≠ f.name) (member : WrittenMember name Scalar t) :
    WrittenEntry [] t

inductive WrittenBehind : List Choice → Text → Prop
  | nil (gap : Space) : WrittenBehind [] (gap.text ++ ['}'])
  | cons (gap gap' : Space) (first : WrittenEntry c t) (rest : WrittenBehind cs u) :
    WrittenBehind (c ++ cs) (gap.text ++ ',' :: (gap'.text ++ (t ++ u)))

inductive WrittenEntries : List Choice → Text → Prop
  | nil (gap : Space) : WrittenEntries [] (gap.text ++ ['}'])
  | cons (gap : Space) (first : WrittenEntry c t) (rest : WrittenBehind cs u) :
    WrittenEntries (c ++ cs) (gap.text ++ (t ++ u))

/-- The ways to write a document that makes the choices in this order. -/
inductive WrittenDocument (cs : List Choice) : Text → Prop
  | document (before behind : Space) (entries : WrittenEntries cs t) :
    WrittenDocument cs (before.text ++ '{' :: (t ++ behind.text))

/-- What reading comes to where choices are written: all of them are given, or one of them is for a
field that has been given. -/
inductive Answers (rest : Text) : Except Field Given → Read Given → Prop
  | given (g : Given) : Answers rest (.ok g) (.ok (g, rest))
  | repeated (f : Field) (cause : halt.cause = .duplicateField f.name) :
    Answers rest (.error f) (.error halt)

variable {fuel : Nat} {f : Field} {g g' : Given} {c : Choice} {cs entry : List Choice}
variable {s t u r w k rest : Text}

theorem readKey_written (h : Written 0 (.string k) t) (front : skipSpace s = t ++ rest) :
    readKey s = .ok (k, rest) := stringOf_written _ h front

/-- A name in quotes is read as what it names. -/
theorem choiceOrKey_written {ofName? : Text → Option α} (names : List Text)
    (named : ofName? k = some a) (h : Written 0 (.string k) t) (front : skipSpace s = t ++ rest) :
    choiceOrKey ofName? names s = .ok (a, rest) := by
  have whole : Json.choice ofName? names (t ++ rest) = .ok (a, rest) := by
    rw [Json.choice]
    simp only [stringOf_written _ h (skipSpace_written h rest), named]
  cases h with
  | string content =>
    rw [List.cons_append] at front whole
    rw [choiceOrKey]
    simp only [front, whole]

theorem ofName?_extraction (e : Extraction) : Extraction.ofName? e.name = some e := by
  cases e <;> rfl

theorem ofName?_policy (p : Policy) : Policy.ofName? p.name = some p := by
  cases p <;> rfl

/-- A value that can be read is put in its place, unless there is one already. -/
theorem readOnce_written {read : Text → Read α} (name : Text) (old : Option α) (gap : Space)
    (put : α → Given) (h : read r = .ok (a, rest)) :
    ((readOnce name old read (gap.text ++ ':' :: r)).map fun p => (put p.1, p.2)) =
      if old.isSome then .error (.floating (.duplicateField name) (gap.text ++ ':' :: r))
      else .ok (put a, rest) := by
  rw [readOnce, colon_append, Except.bind, h]
  split <;> rfl

/-- A field takes its value, unless it has one already. -/
theorem readMember_choice (fuel : Nat) (g : Given) (gap : Space)
    (h : Written 0 (.string c.text) w) (front : skipSpace r = w ++ rest) :
    readMember fuel g c.field.name (gap.text ++ ':' :: r) =
      if (g.choice? c.field).isSome then
        .error (.floating (.duplicateField c.field.name) (gap.text ++ ':' :: r))
      else .ok (g.add c, rest) := by
  cases c with
  | key k =>
    have read : readKey r = .ok (k, rest) := readKey_written h front
    rw [readMember, Choice.field, Field.name, if_pos rfl, Given.choice?, Option.isSome_map]
    exact readOnce_written keyField g.key gap (fun k => g.add (.key k)) read
  | extraction e =>
    have read : readExtraction r = .ok (e, rest) :=
      choiceOrKey_written _ (ofName?_extraction e) h front
    rw [readMember, Choice.field, Field.name, if_neg (by decide), if_pos rfl, Given.choice?,
      Option.isSome_map]
    exact readOnce_written extractionField g.extraction gap (fun e => g.add (.extraction e)) read
  | policy p =>
    have read : readPolicy r = .ok (p, rest) := choiceOrKey_written _ (ofName?_policy p) h front
    rw [readMember, Choice.field, Field.name, if_neg (by decide), if_neg (by decide), if_pos rfl,
      Given.choice?, Option.isSome_map]
    exact readOnce_written policyField g.policy gap (fun p => g.add (.policy p)) read

/-- A member of another name is passed over. -/
theorem readMember_other (fuel : Nat) (g : Given) (before behind : Space)
    (unknown : ∀ f : Field, k ≠ f.name) (h : Scalar w) (stop : EndsNumeral rest) :
    readMember (fuel + 1) g k (before.text ++ ':' :: (behind.text ++ (w ++ rest))) =
      .ok (g, rest) := by
  have other : k ≠ keyField ∧ k ≠ extractionField ∧ k ≠ policyField :=
    ⟨unknown .key, unknown .extraction, unknown .policy⟩
  rw [readMember, if_neg other.1, if_neg other.2.1, if_neg other.2.2, colon_append, Except.bind,
    skip_scalar h (behind.skipSpace_scalar h rest) stop]
  rfl

theorem readMembers_cons (first : Bool) (spelled : Spelled k w)
    (next : nextKey first s = .ok (some (w ++ '"' :: r)))
    (head : readMember fuel g k r = .ok (g', u)) :
    readMembers (fuel + 1) first g s = readMembers fuel false g' u := by
  rw [readMembers]
  simp only [next, string_spelled spelled, head]

theorem readMembers_halt (first : Bool) (spelled : Spelled k w)
    (next : nextKey first s = .ok (some (w ++ '"' :: r)))
    (head : readMember fuel g k r = .error halt) :
    readMembers (fuel + 1) first g s = .error halt := by
  rw [readMembers]
  simp only [next, string_spelled spelled, head]

/-- One member answers the choice that it makes, if what stands behind it answers the others. -/
theorem answers_entry (h : WrittenEntry entry t) (stop : EndsNumeral r) (first : Bool)
    (next : nextKey first s = nextKey true (t ++ r))
    (tail : ∀ g : Given, Answers rest (g.take cs) (readMembers (fuel + 1) false g r)) :
    Answers rest (g.take (entry ++ cs)) (readMembers (fuel + 2) first g s) := by
  cases h with
  | @choice _ c member =>
    cases member with
    | member before behind spelled content =>
      rw [memberText_append, nextKey_first rfl] at next
      have front := behind.skipSpace_written content r
      have head := readMember_choice (fuel + 1) g before content front
      rw [List.singleton_append, Given.take]
      split
      · next again =>
        rw [if_pos again] at head
        rw [readMembers_halt first spelled next head]
        exact .repeated c.field rfl
      · next fresh =>
        rw [if_neg fresh] at head
        rw [readMembers_cons first spelled next head]
        exact tail (g.add c)
  | other unknown member =>
    cases member with
    | member before behind spelled content =>
      rw [memberText_append, nextKey_first rfl] at next
      have head := readMember_other fuel g before behind unknown content stop
      rw [List.nil_append, readMembers_cons first spelled next head]
      exact tail g

theorem writtenBehind_ends (h : WrittenBehind cs u) (rest : Text) : EndsNumeral (u ++ rest) := by
  cases h with
  | _ =>
    rw [List.append_assoc]
    exact Space.endsNumeral _ (endsNumeral_cons (by decide) _)

theorem writtenBehind_length (h : WrittenBehind cs u) : 0 < u.length := by
  cases h <;> simp only [List.length_append, List.length_cons] <;> omega

theorem readMembers_end (first : Bool) (front : skipSpace s = '}' :: rest) :
    readMembers (fuel + 1) first g s = .ok (g, '}' :: rest) := by
  rw [readMembers]
  simp only [nextKey_end first front, front]

theorem WrittenEntry.nextKey_next (h : WrittenEntry entry t) (gap gap' : Space) (s : Text) :
    nextKey false (gap.text ++ ',' :: (gap'.text ++ (t ++ s))) = nextKey true (t ++ s) := by
  cases h with
  | choice member | other _ member => exact member.nextKey_next gap gap' s

theorem WrittenEntry.nextKey_first (h : WrittenEntry entry t) (gap : Space) (s : Text) :
    nextKey true (gap.text ++ (t ++ s)) = nextKey true (t ++ s) := by
  cases h with
  | choice member | other _ member => exact member.nextKey_first gap s

/-- By induction on the members that are left; each of them uses up some of the fuel. -/
theorem answers_behind (h : WrittenBehind cs u) (enough : u.length ≤ fuel) (g : Given)
    (rest : Text) :
    Answers ('}' :: rest) (g.take cs) (readMembers fuel false g (u ++ rest)) := by
  induction h generalizing g fuel with
  | nil gap =>
    simp only [List.length_append, List.length_cons, List.length_nil] at enough
    obtain ⟨fuel, rfl⟩ := Nat.exists_eq_add_one.mpr (by omega : 0 < fuel)
    rw [List.append_assoc, List.singleton_append,
      readMembers_end false (gap.skipSpace_append rfl rest)]
    exact .given g
  | @cons _ t _ u gap gap' first more ih =>
    have full := writtenBehind_length more
    simp only [List.length_append, List.length_cons] at enough
    obtain ⟨fuel, rfl⟩ := Nat.exists_eq_add_of_le (by omega : 2 ≤ fuel)
    have next := first.nextKey_next gap gap' (u ++ rest)
    simp only [List.append_assoc, List.cons_append, Nat.add_comm 2 fuel]
    exact answers_entry first (writtenBehind_ends more rest) false next fun g =>
      ih (by omega) g

theorem answers_entries (h : WrittenEntries cs t) (enough : t.length < fuel) (g : Given)
    (rest : Text) :
    Answers ('}' :: rest) (g.take cs) (readMembers fuel true g (t ++ rest)) := by
  cases h with
  | nil gap =>
    obtain ⟨fuel, rfl⟩ := Nat.exists_eq_add_one.mpr (by omega : 0 < fuel)
    rw [List.append_assoc, List.singleton_append,
      readMembers_end true (gap.skipSpace_append rfl rest)]
    exact .given g
  | @cons _ t _ u gap first more =>
    have full := writtenBehind_length more
    simp only [List.length_append] at enough
    obtain ⟨fuel, rfl⟩ := Nat.exists_eq_add_of_le (by omega : 2 ≤ fuel)
    have next := first.nextKey_first gap (u ++ rest)
    simp only [List.append_assoc, Nat.add_comm 2 fuel]
    exact answers_entry first (writtenBehind_ends more rest) true next fun g =>
      answers_behind more (by omega) g rest

theorem Answers.braced {answer : Except Field Given} {inside : Read Given}
    (h : Answers ('}' :: rest) answer inside) : Answers rest answer (braced inside) := by
  cases h with
  | given g => exact .given g
  | @repeated halt f cause => exact .repeated f ((Halt.cause_settleObject halt).trans cause)

theorem read_written (before behind : Space) (h : WrittenEntries cs t) :
    Answers behind.text (Given.take {} cs) (read (before.text ++ '{' :: (t ++ behind.text))) := by
  have enough : t.length < steps (t ++ behind.text) := by
    rw [steps, List.length_append]
    omega
  rw [read, before.skipSpace_append rfl]
  exact (answers_entries h enough {} behind.text).braced

theorem Answers.eq_ok {result : Read Given} (h : Answers rest (.ok g) result) :
    result = .ok (g, rest) := by
  cases h
  rfl

theorem Answers.eq_error {result : Read Given} (h : Answers rest (.error f) result) :
    ∃ halt, result = .error halt ∧ halt.cause = .duplicateField f.name := by
  cases h with
  | repeated _ cause => exact ⟨_, rfl, cause⟩

/-- A file that chooses no option twice gives what it chooses. -/
theorem ofFile_given (h : WrittenDocument cs t) (taken : Given.take {} cs = .ok g) :
    ofFile (.ok (Text.utf8 t)) = .ok g.options := by
  cases h with
  | document before behind entries =>
    have answer := read_written before behind entries
    rw [taken] at answer
    have whole := document_eq_ok answer.eq_ok behind.skipSpace_text
    simp only [ofFile, Text.ofUtf8?_utf8, ofJson, whole, Except.map]

/-- A file that chooses an option twice is not read. -/
theorem ofFile_repeated (h : WrittenDocument cs t) (taken : Given.take {} cs = .error f) :
    ∃ fault, ofFile (.ok (Text.utf8 t)) = .error (.badJson fault) ∧
      fault.cause = .duplicateField f.name := by
  cases h with
  | @document t before behind entries =>
    have answer := read_written before behind entries
    rw [taken] at answer
    obtain ⟨halt, failed, cause⟩ := answer.eq_error
    refine ⟨.ofHalt (before.text ++ '{' :: (t ++ behind.text)) halt, ?_, cause⟩
    simp only [ofFile, Text.ofUtf8?_utf8, ofJson, document, failed, Except.map]

/-- Options for different fields are read as they are written, and the others are the defaults. -/
theorem ofFile_written {o : Options} {fields : List Field} (once : fields.Nodup)
    (h : WrittenDocument (fields.map o.choice) t) :
    ∃ read, ofFile (.ok (Text.utf8 t)) = .ok read ∧
      ∀ f, read.choice f = (if f ∈ fields then o else {}).choice f := by
  have names : (fields.map o.choice).map Choice.field = fields := by
    simp [Function.comp_def, field_choice]
  obtain ⟨g, taken, given, others⟩ := Given.take_nodup (names.symm ▸ once)
  refine ⟨g.options, ofFile_given h taken, fun f => ?_⟩
  rw [g.choice_options]
  split
  · next chosen =>
    have here := given (o.choice f) (List.mem_map_of_mem chosen)
    rw [field_choice] at here
    rw [here, Option.getD_some]
  · next absent => rw [others f (names.symm ▸ absent), Option.getD_none]

theorem ofFile_twice (h : WrittenDocument cs t) (twice : ¬ (cs.map Choice.field).Nodup) :
    ∃ fault f, ofFile (.ok (Text.utf8 t)) = .error (.badJson fault) ∧
      fault.cause = .duplicateField f.name ∧ List.Duplicate f (cs.map Choice.field) := by
  obtain ⟨f, taken, again⟩ := Given.take_not_nodup twice
  obtain ⟨fault, failed, cause⟩ := ofFile_repeated h taken
  exact ⟨fault, f, failed, cause, again⟩

end Descramble.Script.Options
