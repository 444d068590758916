import Descramble.Json.Number
import Descramble.Json.String

namespace Descramble.Json

/-- The members of an object keep their order, and a key may occur twice. -/
inductive Value
  | null
  | boolean (b : Bool)
  | number (n : Number)
  | string (s : Text)
  | list (items : List Value)
  | object (members : List (Text × Value))

def Value.found : Value → Found
  | .null => .null
  | .boolean b => .boolean b
  | .number n => n.found
  | .string s => .string s
  | .list _ => .list
  | .object _ => .object

def scalar? : Text → Option (Read Value)
  | [] => none
  | c :: r =>
    if c = 'n' then some ((word ['u', 'l', 'l'] r).map fun r => (.null, r))
    else if c = 't' then some ((word ['r', 'u', 'e'] r).map fun r => (.boolean true, r))
    else if c = 'f' then some ((word ['a', 'l', 's', 'e'] r).map fun r => (.boolean false, r))
    else if c = '-' then some ((number true r).map fun p => (.number p.1, p.2))
    else if c.isDigit then some ((number false (c :: r)).map fun p => (.number p.1, p.2))
    else if c = '"' then some ((string r).map fun p => (.string p.1, p.2))
    else none

/-- The fault of meeting another value than the expected one; only a scalar is read to its end. -/
def wrongType (expected s : Text) : Halt :=
  match scalar? s with
  | some (.ok (v, r)) => .here (.wrongType v.found expected) r
  | some (.error halt) => halt
  | none =>
    match s with
    | '[' :: _ => .here (.wrongType .list expected) s
    | '{' :: _ => .here (.wrongType .object expected) s
    | _ => .past .expectedValue s

def maxDepth : Nat := 127

mutual

/-- Any value. `fuel` bounds the steps and `depth` the lists and objects that may still be
entered. A step is taken for each value and each place where one may follow. -/
def value (fuel depth : Nat) (s : Text) : Read Value :=
  match fuel with
  | 0 => .error (.past .tooDeep s)
  | fuel + 1 =>
    match skipSpace s with
    | [] => .error (.past .unfinishedValue [])
    | c :: r =>
      match scalar? (c :: r) with
      | some found => found
      | none =>
        if c = '[' ∨ c = '{' then
          match depth with
          | 0 => .error (.past .tooDeep (c :: r))
          | depth + 1 =>
            if c = '[' then listed ((items fuel depth true r).map fun p => (.list p.1, p.2))
            else braced ((members fuel depth true r).map fun p => (.object p.1, p.2))
        else .error (.past .expectedValue (c :: r))

def items (fuel depth : Nat) (first : Bool) (s : Text) : Read (List Value) :=
  match fuel with
  | 0 => .error (.past .tooDeep s)
  | fuel + 1 =>
    match nextItem first s with
    | .error halt => .error halt
    | .ok none => .ok ([], skipSpace s)
    | .ok (some r) =>
      match value fuel depth r with
      | .error halt => .error halt
      | .ok (v, r) => (items fuel depth false r).map fun p => (v :: p.1, p.2)

def members (fuel depth : Nat) (first : Bool) (s : Text) : Read (List (Text × Value)) :=
  match fuel with
  | 0 => .error (.past .tooDeep s)
  | fuel + 1 =>
    match nextKey first s with
    | .error halt => .error halt
    | .ok none => .ok ([], skipSpace s)
    | .ok (some r) =>
      match string r with
      | .error halt => .error halt
      | .ok (key, r) =>
        match (colon r).bind (value fuel depth) with
        | .error halt => .error halt
        | .ok (v, r) => (members fuel depth false r).map fun p => ((key, v) :: p.1, p.2)

end

/-- More steps than any text of this length has. -/
def steps (s : Text) : Nat := 3 * s.length + 3

def Value.parse (s : Text) : Except Fault Value := document (value (steps s) maxDepth) s

def stringOf (expected s : Text) : Read Text :=
  match skipSpace s with
  | [] => .error (.past .unfinishedValue [])
  | '"' :: r => string r
  | t => .error (wrongType expected t)

def choice (ofName? : Text → Option α) (names : List Text) (s : Text) : Read α :=
  match stringOf "variant identifier".toList s with
  | .error halt => .error halt
  | .ok (name, r) =>
    match ofName? name with
    | some a => .ok (a, r)
    | none => .error (.here (.unknownVariant name names) r)

/-- A choice may also be written as the key of an object whose value is null. -/
def choiceOrKey (ofName? : Text → Option α) (names : List Text) (s : Text) : Read α :=
  match skipSpace s with
  | [] => .error (.past .unfinishedValue [])
  | '"' :: r => choice ofName? names ('"' :: r)
  | '{' :: r =>
    match key r with
    | .error halt => .error halt
    | .ok (a, r) =>
      match (colon r).bind unit with
      | .error halt => .error halt
      | .ok r =>
        match skipSpace r with
        | [] => .error (.here .unfinishedObject [])
        | '}' :: r => .ok (a, r)
        | t => .error (.here .expectedValue t)
  | t => .error (.past .expectedValue t)
where
  key (s : Text) : Read α :=
    match skipSpace s with
    | [] => .error (.past .unfinishedObject [])
    | '"' :: r => choice ofName? names ('"' :: r)
    | '}' :: r => .error (.past .expectedValue ('}' :: r))
    | t => .error (.past .keyNotString t)
  unit (s : Text) : Except Halt Text :=
    match skipSpace s with
    | [] => .error (.past .unfinishedValue [])
    | 'n' :: r => word ['u', 'l', 'l'] r
    | t => .error (wrongType "unit".toList t)

end Descramble.Json
