import Descramble.Proofs.Json.Reading

namespace Descramble.Json

variable {fuel depth n : Nat} {s r t u rest : Text} {c : Char} {v : Value} {vs : List Value}
variable {k : Text} {ms : List (Text × Value)}

theorem scalar?_digit (digit : c.isDigit = true) (r : Text) :
    scalar? (c :: r) = some ((number false (c :: r)).map fun p => (.number p.1, p.2)) := by
  have other {d : Char} := Text.ne_of_isDigit (d := d) digit
  have letters : c ≠ 'n' ∧ c ≠ 't' ∧ c ≠ 'f' ∧ c ≠ '-' :=
    ⟨other rfl, other rfl, other rfl, other rfl⟩
  simp [scalar?, digit, letters]

theorem scalar?_natural (small : n < UInt64.size) (stop : EndsNumeral rest) :
    scalar? (Text.decimal n ++ rest) = some (.ok (.number (.natural n), rest)) := by
  obtain ⟨c, ds, digits, -⟩ := Text.decimal_cons n
  have digit : c.isDigit = true := Text.isDigit_of_mem_decimal (digits ▸ List.mem_cons_self)
  have read := number_decimal false small stop
  rw [digits, List.cons_append] at read ⊢
  rw [scalar?_digit digit, read]
  rfl

/-- A number of 2^64 or more is a float, or out of range even for one. -/
theorem scalar?_excess (large : UInt64.size ≤ n) (stop : EndsNumeral rest) :
    (∃ x, scalar? (Text.decimal n ++ rest) = some (.ok (.number (.real x), rest))) ∨
      scalar? (Text.decimal n ++ rest) = some (.error (.here .numberOutOfRange rest)) := by
  obtain ⟨c, ds, digits, -⟩ := Text.decimal_cons n
  have digit : c.isDigit = true := Text.isDigit_of_mem_decimal (digits ▸ List.mem_cons_self)
  obtain ⟨w, k, read⟩ := number_excess false large stop
  rw [digits, List.cons_append] at read ⊢
  rw [scalar?_digit digit, read, scaled]
  cases scale? w k with
  | none => exact .inr rfl
  | some x => exact .inl ⟨_, rfl⟩

theorem scalar?_negative (nonzero : 0 < n) (small : n ≤ signWeight) (stop : EndsNumeral rest) :
    scalar? ('-' :: Text.decimal n ++ rest) = some (.ok (.number (.negative n), rest)) := by
  have read := number_decimal true (Nat.lt_of_le_of_lt small (by decide)) stop
  have whole : wholeNumber true n = .negative n := by
    rw [wholeNumber, if_neg (by decide), if_neg (by omega)]
  simp [scalar?, read, whole, Except.map]

theorem scalar?_string (content : Spelled k t) (rest : Text) :
    scalar? ('"' :: (t ++ ['"']) ++ rest) = some (.ok (.string k, rest)) := by
  rw [List.cons_append, List.append_assoc]
  simp [scalar?, string_spelled content rest, Except.map]

theorem value_scalar {result : Read Value} (front : skipSpace s = u)
    (found : scalar? u = some result) : value (fuel + 1) depth s = result := by
  cases u with
  | nil => cases found
  | cons c r =>
    rw [value]
    simp only [front, found]

theorem value_list (front : skipSpace s = '[' :: r)
    (inside : items fuel depth true r = .ok (vs, ']' :: rest)) :
    value (fuel + 1) (depth + 1) s = .ok (.list vs, rest) := by
  have opens : scalar? ('[' :: r) = none := rfl
  rw [value]
  simp only [front, opens, inside]
  rfl

theorem value_object (front : skipSpace s = '{' :: r)
    (inside : members fuel depth true r = .ok (ms, '}' :: rest)) :
    value (fuel + 1) (depth + 1) s = .ok (.object ms, rest) := by
  have opens : scalar? ('{' :: r) = none := rfl
  rw [value]
  simp only [front, opens, inside]
  rfl

theorem items_nil (first : Bool) (front : skipSpace s = ']' :: rest) :
    items (fuel + 1) depth first s = .ok ([], ']' :: rest) := by
  rw [items]
  simp only [nextItem_end first front, front]

theorem items_cons (first : Bool) (next : nextItem first s = .ok (some r))
    (head : value fuel depth r = .ok (v, t)) (tail : items fuel depth false t = .ok (vs, rest)) :
    items (fuel + 1) depth first s = .ok (v :: vs, rest) := by
  rw [items]
  simp only [next, head, tail]
  rfl

theorem members_nil (first : Bool) (front : skipSpace s = '}' :: rest) :
    members (fuel + 1) depth first s = .ok ([], '}' :: rest) := by
  rw [members]
  simp only [nextKey_end first front, front]

theorem colon_append (gap : Space) (s : Text) : colon (gap.text ++ ':' :: s) = .ok s :=
  colon_eq_ok (gap.skipSpace_append rfl s)

theorem members_cons (first : Bool) (gap : Space)
    (next : nextKey first s = .ok (some (t ++ '"' :: (gap.text ++ ':' :: r)))) (key : Spelled k t)
    (head : value fuel depth r = .ok (v, u))
    (tail : members fuel depth false u = .ok (ms, rest)) :
    members (fuel + 1) depth first s = .ok ((k, v) :: ms, rest) := by
  rw [members]
  simp only [next, string_spelled key, colon_append, Except.bind, head, tail]
  rfl

theorem not_isSpace_of_isDigit (digit : c.isDigit = true) : isSpace c = false ∧ c ≠ ']' := by
  have other {d : Char} := Text.ne_of_isDigit (d := d) digit
  have blanks : c ≠ ' ' ∧ c ≠ '\n' ∧ c ≠ '\t' ∧ c ≠ '\r' :=
    ⟨other rfl, other rfl, other rfl, other rfl⟩
  exact ⟨by simp [isSpace, blanks], other rfl⟩

/-- A value begins with a character that is neither space nor the end of a list. -/
theorem written_cons (h : Written depth v t) :
    ∃ c r, t = c :: r ∧ isSpace c = false ∧ c ≠ ']' := by
  cases h with
  | @natural n small =>
    obtain ⟨c, ds, front, -⟩ := Text.decimal_cons n
    have digit : c.isDigit = true := Text.isDigit_of_mem_decimal (front ▸ List.mem_cons_self)
    exact ⟨c, ds, front, not_isSpace_of_isDigit digit⟩
  | _ => exact ⟨_, _, rfl, rfl, by decide⟩

theorem writtenItems_ends (h : WrittenItems depth vs u) (rest : Text) :
    EndsNumeral (u ++ rest) := by
  cases h with
  | _ =>
    rw [List.append_assoc]
    exact Space.endsNumeral _ (endsNumeral_cons (by decide) _)

theorem writtenMembers_ends (h : WrittenMembers depth ms u) (rest : Text) :
    EndsNumeral (u ++ rest) := by
  cases h with
  | _ =>
    rw [List.append_assoc]
    exact Space.endsNumeral _ (endsNumeral_cons (by decide) _)

theorem written_length (h : Written depth v t) : 0 < t.length := by
  obtain ⟨c, r, front, -⟩ := written_cons h
  simp [front]

theorem writtenItems_length (h : WrittenItems depth vs u) : 0 < u.length := by
  cases h <;> simp only [List.length_append, List.length_cons] <;> omega

theorem writtenMembers_length (h : WrittenMembers depth ms u) : 0 < u.length := by
  cases h <;> simp only [List.length_append, List.length_cons] <;> omega

theorem skipSpace_written (h : Written depth v t) (s : Text) : skipSpace (t ++ s) = t ++ s := by
  obtain ⟨c, r, rfl, space, -⟩ := written_cons h
  exact List.dropWhile_cons_of_neg (by simp [space])

theorem Space.skipSpace_written (g : Space) (h : Written depth v t) (s : Text) :
    skipSpace (g.text ++ (t ++ s)) = t ++ s := by
  obtain ⟨c, r, rfl, space, -⟩ := written_cons h
  exact g.skipSpace_append space _

theorem Space.skipSpace_decimal (g : Space) (n : Nat) (s : Text) :
    skipSpace (g.text ++ (Text.decimal n ++ s)) = Text.decimal n ++ s := by
  obtain ⟨c, ds, digits, -⟩ := Text.decimal_cons n
  have digit : c.isDigit = true := Text.isDigit_of_mem_decimal (digits ▸ List.mem_cons_self)
  rw [digits]
  exact g.skipSpace_append (not_isSpace_of_isDigit digit).1 _

theorem nextItem_written_first (gap : Space) (h : Written depth v t) (s : Text) :
    nextItem true (gap.text ++ (t ++ s)) = .ok (some (t ++ s)) := by
  have front := gap.skipSpace_written h s
  obtain ⟨c, r, rfl, -, close⟩ := written_cons h
  exact nextItem_first close front

theorem nextItem_written_next (gap gap' : Space) (h : Written depth v t) (s : Text) :
    nextItem false (gap.text ++ ',' :: (gap'.text ++ (t ++ s))) = .ok (some (t ++ s)) := by
  have comma := gap.skipSpace_append (c := ',') rfl (gap'.text ++ (t ++ s))
  have front := gap'.skipSpace_written h s
  obtain ⟨c, r, rfl, -, close⟩ := written_cons h
  exact nextItem_next close comma front

theorem memberText_append (key : Text) (before behind : Space) (t s : Text) :
    memberText key before behind t ++ s =
      '"' :: (key ++ '"' :: (before.text ++ ':' :: (behind.text ++ (t ++ s)))) := by
  simp [memberText]

theorem nextKey_member_first (gap : Space) (key : Text) (before behind : Space) (t s : Text) :
    nextKey true (gap.text ++ (memberText key before behind t ++ s)) =
      .ok (some (key ++ '"' :: (before.text ++ ':' :: (behind.text ++ (t ++ s))))) := by
  rw [memberText_append]
  exact nextKey_first (gap.skipSpace_append rfl _)

theorem nextKey_member_next (gap gap' : Space) (key : Text) (before behind : Space) (t s : Text) :
    nextKey false (gap.text ++ ',' :: (gap'.text ++ (memberText key before behind t ++ s))) =
      .ok (some (key ++ '"' :: (before.text ++ ':' :: (behind.text ++ (t ++ s))))) := by
  rw [memberText_append]
  exact nextKey_next (gap.skipSpace_append rfl _) (gap'.skipSpace_append rfl _)

-- The induction is on the grammar. Each part of a text is shorter than the whole, so the length of
-- the text is enough fuel for it and what remains of the fuel is enough for its parts.
mutual

/-- Every text that writes a value is read as that value, whatever follows. -/
theorem value_written {depth fuel : Nat} {v : Value} {s t rest : Text} (h : Written depth v t)
    (enough : t.length ≤ fuel) (front : skipSpace s = t ++ rest) (stop : EndsNumeral rest) :
    value fuel depth s = .ok (v, rest) := by
  have step := written_length h
  obtain ⟨fuel, rfl⟩ := Nat.exists_eq_add_one.mpr (by omega : 0 < fuel)
  cases h with
  | null => exact value_scalar front rfl
  | true => exact value_scalar front rfl
  | false => exact value_scalar front rfl
  | natural small => exact value_scalar front (scalar?_natural small stop)
  | negative nonzero small => exact value_scalar front (scalar?_negative nonzero small stop)
  | string content => exact value_scalar front (scalar?_string content rest)
  | noItems gap =>
    simp only [List.length_cons, List.length_append, List.length_nil] at enough
    obtain ⟨fuel, rfl⟩ := Nat.exists_eq_add_one.mpr (by omega : 0 < fuel)
    rw [List.cons_append, List.append_assoc] at front
    exact value_list front (items_nil true (gap.skipSpace_append rfl rest))
  | @list _ _ t _ u gap first more =>
    have full := written_length first
    have full' := writtenItems_length more
    simp only [List.length_cons, List.length_append] at enough
    obtain ⟨fuel, rfl⟩ := Nat.exists_eq_add_one.mpr (by omega : 0 < fuel)
    rw [List.cons_append, List.append_assoc, List.append_assoc] at front
    have stop' := writtenItems_ends more rest
    have enough' : t.length ≤ fuel ∧ u.length ≤ fuel := by omega
    have head := value_written first enough'.1 (skipSpace_written first _) stop'
    have tail := items_written more enough'.2 rest
    exact value_list front (items_cons true (nextItem_written_first gap first _) head tail)
  | noMembers gap =>
    simp only [List.length_cons, List.length_append, List.length_nil] at enough
    obtain ⟨fuel, rfl⟩ := Nat.exists_eq_add_one.mpr (by omega : 0 < fuel)
    rw [List.cons_append, List.append_assoc] at front
    exact value_object front (members_nil true (gap.skipSpace_append rfl rest))
  | @object _ name _ _ t _ u gap before behind key first more =>
    have full := written_length first
    have full' := writtenMembers_length more
    simp only [List.length_cons, List.length_append, memberText] at enough
    obtain ⟨fuel, rfl⟩ := Nat.exists_eq_add_one.mpr (by omega : 0 < fuel)
    rw [List.cons_append, List.append_assoc, List.append_assoc] at front
    have stop' := writtenMembers_ends more rest
    have enough' : t.length ≤ fuel ∧ u.length ≤ fuel := by omega
    have head := value_written first enough'.1 (behind.skipSpace_written first _) stop'
    have tail := members_written more enough'.2 rest
    have next := nextKey_member_first gap name before behind t (u ++ rest)
    exact value_object front (members_cons true before next key head tail)

/-- A step for each character is enough. -/
theorem items_written {depth fuel : Nat} {vs : List Value} {u : Text}
    (h : WrittenItems depth vs u) (enough : u.length ≤ fuel) (rest : Text) :
    items fuel depth false (u ++ rest) = .ok (vs, ']' :: rest) := by
  have step := writtenItems_length h
  obtain ⟨fuel, rfl⟩ := Nat.exists_eq_add_one.mpr (by omega : 0 < fuel)
  cases h with
  | nil gap =>
    rw [List.append_assoc]
    exact items_nil false (gap.skipSpace_append rfl rest)
  | @cons _ _ t _ u gap gap' first more =>
    simp only [List.length_cons, List.length_append] at enough
    simp only [List.cons_append, List.append_assoc]
    have stop := writtenItems_ends more rest
    have enough' : t.length ≤ fuel ∧ u.length ≤ fuel := by omega
    have head := value_written first enough'.1 (skipSpace_written first _) stop
    have tail := items_written more enough'.2 rest
    exact items_cons false (nextItem_written_next gap gap' first _) head tail

theorem members_written {depth fuel : Nat} {ms : List (Text × Value)} {u : Text}
    (h : WrittenMembers depth ms u) (enough : u.length ≤ fuel) (rest : Text) :
    members fuel depth false (u ++ rest) = .ok (ms, '}' :: rest) := by
  have step := writtenMembers_length h
  obtain ⟨fuel, rfl⟩ := Nat.exists_eq_add_one.mpr (by omega : 0 < fuel)
  cases h with
  | nil gap =>
    rw [List.append_assoc]
    exact members_nil false (gap.skipSpace_append rfl rest)
  | @cons _ name _ _ t _ u gap gap' before behind key first more =>
    simp only [List.length_cons, List.length_append, memberText] at enough
    rw [List.append_assoc, List.cons_append, List.append_assoc, List.append_assoc]
    have stop := writtenMembers_ends more rest
    have enough' : t.length ≤ fuel ∧ u.length ≤ fuel := by omega
    have head := value_written first enough'.1 (behind.skipSpace_written first _) stop
    have tail := members_written more enough'.2 rest
    have next := nextKey_member_next gap gap' name before behind t (u ++ rest)
    exact members_cons false before next key head tail

end

theorem document_eq_ok {α : Type} {read : Text → Read α} {a : α} (h : read s = .ok (a, rest))
    (behind : skipSpace rest = []) : document read s = .ok a := by
  simp only [document, h, behind]

/-- A text that writes a value is a document that holds it. -/
theorem parse_written (h : Written maxDepth v t) : Value.parse t = .ok v := by
  have enough : t.length ≤ steps t := by
    rw [steps]
    omega
  have front : skipSpace t = t ++ [] := by
    have whole := skipSpace_written h []
    rwa [List.append_nil] at whole ⊢
  have stop : EndsNumeral [] := by
    intro c hc
    cases hc
  exact document_eq_ok (value_written h enough front stop) rfl

/-- A text writes at most one value. -/
theorem written_unique (h : Written maxDepth v t) (h' : Written maxDepth v' t) : v = v' :=
  Except.ok.inj ((parse_written h).symm.trans (parse_written h'))

/-- What is wrong with a number that is too large: it is no integer, or not even a float. -/
inductive Cause.Excess : Cause → Prop
  | float (numeral : Text) : Excess (.wrongType (.real numeral) "usize".toList)
  | outOfRange : Excess .numberOutOfRange

/-- How a text is read that may hold numbers of any size: exactly and up to `rest`, or not at all
because one of them is too large. -/
inductive Outcome (exact : α → Prop) (large : Prop) (rest : Text) : Read α → Prop
  | read (a : α) (h : exact a) : Outcome exact large rest (.ok (a, rest))
  | refused (h : large) (halt : Halt) (excess : halt.cause.Excess) :
    Outcome exact large rest (.error halt)

inductive Stored (n : Nat) : Value → Prop
  | natural (small : n < UInt64.size) : Stored n (.number (.natural n))
  | float (large : UInt64.size ≤ n) (x : Float) : Stored n (.number (.real x))

/-- A number of any size is read exactly, or it is too large. -/
theorem value_decimal (front : skipSpace s = Text.decimal n ++ rest) (stop : EndsNumeral rest) :
    Outcome (Stored n) (UInt64.size ≤ n) rest (value (fuel + 1) depth s) := by
  by_cases small : n < UInt64.size
  · rw [value_scalar front (scalar?_natural small stop)]
    exact .read _ (.natural small)
  · have large : UInt64.size ≤ n := Nat.not_lt.mp small
    obtain ⟨x, found⟩ | found := scalar?_excess large stop
    · rw [value_scalar front found]
      exact .read _ (.float large x)
    · rw [value_scalar front found]
      exact .refused large _ .outOfRange

end Descramble.Json
