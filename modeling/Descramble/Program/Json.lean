import Descramble.Json.Value
import Descramble.Operation

namespace Descramble

open Json

namespace Kind

def ofName? (s : Text) : Option Kind := all.find? fun k => k.name == s

def field : Kind → Text
  | reverse => []
  | slice => "count".toList
  | swap => "index".toList

def title : Kind → Text
  | reverse => "Reverse".toList
  | slice => "Slice".toList
  | swap => "Swap".toList

end Kind

namespace Operation

def tag : Text := "op".toList

def toValue : Operation → Value
  | reverse => .object [(tag, .string Kind.reverse.name)]
  | slice n =>
    .object [(tag, .string Kind.slice.name), (Kind.slice.field, .number (.natural n.toNat))]
  | swap n => .object [(tag, .string Kind.swap.name), (Kind.swap.field, .number (.natural n.toNat))]

def operandOfValue : Value → Except Cause UInt64
  | .number (.natural n) => .ok (.ofNat n)
  | .number (.negative n) => .error (.wrongValue (.negative n) "usize".toList)
  | v => .error (.wrongType v.found "usize".toList)

/-- The operand among the members; all other members are passed over. -/
def operandOfMembers (field : Text) (operand : Option UInt64) :
    List (Text × Value) → Except Cause UInt64
  | [] =>
    match operand with
    | some n => .ok n
    | none => .error (.missingField field)
  | (key, v) :: ms =>
    if key = field then
      match operand, operandOfValue v with
      | some _, _ => .error (.duplicateField field)
      | none, .ok n => operandOfMembers field (some n) ms
      | none, .error cause => .error cause
    else operandOfMembers field operand ms

def countText (n : Nat) : Text :=
  if n = 1 then "1 element in sequence".toList
  else Text.decimal n ++ " elements in sequence".toList

def ofItems (kind : Kind) (items : List Value) : Except Cause Operation :=
  if kind.takesOperand then
    match items with
    | [] => .error (.wrongLength 0 ("struct variant Operation::".toList ++ kind.title ++
        " with 1 element".toList))
    | v :: rest =>
      match operandOfValue v with
      | .error cause => .error cause
      | .ok n =>
        if rest.isEmpty then .ok (ofKind kind n)
        else .error (.wrongLength items.length (countText 1))
  else if items.isEmpty then .ok (ofKind kind 0)
  else .error (.wrongLength items.length (countText 0))

def ofMembers (kind : Kind) (members : List (Text × Value)) : Except Cause Operation :=
  if kind.takesOperand then (operandOfMembers kind.field none members).map (ofKind kind)
  else .ok (ofKind kind 0)

def readKind (s : Text) : Read Kind := choice Kind.ofName? (Kind.all.map Kind.name) s

/-- The kind, wherever it stands among the members, and the other members. -/
def readTagged (fuel depth : Nat) (first : Bool) (kind : Option Kind) (s : Text) :
    Read (Kind × List (Text × Value)) :=
  match fuel with
  | 0 => .error (.past .tooDeep s)
  | fuel + 1 =>
    match nextKey first s with
    | .error halt => .error halt
    | .ok none =>
      match kind with
      | some kind => .ok ((kind, []), skipSpace s)
      | none => .error (.floating (.missingField tag) (skipSpace s))
    | .ok (some r) =>
      match string r with
      | .error halt => .error halt
      | .ok (key, r) =>
        if key = tag then
          if kind.isSome then .error (.floating (.duplicateField tag) r)
          else
            match (colon r).bind readKind with
            | .error halt => .error halt
            | .ok (kind, r) => readTagged fuel depth false (some kind) r
        else
          match (colon r).bind (value fuel depth) with
          | .error halt => .error halt
          | .ok (v, r) =>
            (readTagged fuel depth false kind r).map fun p => ((p.1.1, (key, v) :: p.1.2), p.2)

def readListed (fuel depth : Nat) (s : Text) : Read (Kind × List Value) :=
  match nextItem true s with
  | .error halt => .error halt
  | .ok none => .error (.floating (.missingField tag) (skipSpace s))
  | .ok (some r) =>
    match readKind r with
    | .error halt => .error halt
    | .ok (kind, r) => (items fuel depth false r).map fun p => ((kind, p.1), p.2)

/-- A fault in the operand is only known once the whole operation has been read. -/
def conclude (rest : Text) : Except Cause Operation → Read Operation
  | .ok op => .ok (op, rest)
  | .error cause => .error (.floating cause rest)

/-- One operation: an object with a member for the kind, or a list that begins with it. -/
def read (fuel depth : Nat) (s : Text) : Read Operation :=
  match skipSpace s with
  | [] => .error (.past .unfinishedValue [])
  | '[' :: r =>
    match listed (readListed fuel depth r) with
    | .error halt => .error halt
    | .ok ((kind, items), rest) => conclude rest (ofItems kind items)
  | '{' :: r =>
    match braced (readTagged fuel depth true none r) with
    | .error halt => .error halt
    | .ok ((kind, members), rest) => conclude rest (ofMembers kind members)
  | t => .error (wrongType "internally tagged enum Operation".toList t)

end Operation

namespace Program

def toValue (p : Program) : Value := .list (p.map Operation.toValue)

def readItems (fuel : Nat) (first : Bool) (s : Text) : Read Program :=
  match fuel with
  | 0 => .error (.past .tooDeep s)
  | fuel + 1 =>
    match nextItem first s with
    | .error halt => .error halt
    | .ok none => .ok ([], skipSpace s)
    | .ok (some r) =>
      match Operation.read fuel (maxDepth - 2) r with
      | .error halt => .error halt
      | .ok (op, r) => (readItems fuel false r).map fun p => (op :: p.1, p.2)

def read (s : Text) : Read Program :=
  match skipSpace s with
  | [] => .error (.past .unfinishedValue [])
  | '[' :: r => listed (readItems (steps r) true r)
  | t => .error (wrongType "a sequence".toList t)

def ofJson (text : Text) : Except Json.Fault Program := document read text

end Program
end Descramble
