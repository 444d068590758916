import Descramble.Json.Fault
import Descramble.Text.Utf8

namespace Descramble.Json

def byteCount (s : Text) : Nat := s.foldr (fun c n => c.utf8Size + n) 0

/-- Why reading stopped. The place is the number of bytes left unread; a fault in the meaning of
a value floats until the value that encloses it is left. -/
inductive Halt
  | placed (cause : Cause) (left : Nat)
  | floating (cause : Cause) (rest : Text)

namespace Halt

def here (cause : Cause) (rest : Text) : Halt := placed cause (byteCount rest)

/-- Places the fault behind the next byte, if there is one. -/
def past (cause : Cause) (rest : Text) : Halt := placed cause (byteCount rest - 1)

def cause : Halt → Cause
  | placed cause _ | floating cause _ => cause

def left : Halt → Nat
  | placed _ left => left
  | floating _ rest => byteCount rest

end Halt

abbrev Read (α : Type) := Except Halt (α × Text)

def isSpace (c : Char) : Bool := c == ' ' || c == '\n' || c == '\t' || c == '\r'

def skipSpace (s : Text) : Text := s.dropWhile isSpace

def word (letters s : Text) : Except Halt Text :=
  match letters, s with
  | [], s => .ok s
  | _ :: _, [] => .error (.here .unfinishedValue [])
  | a :: letters, c :: s =>
    if c = a then word letters s else .error (.past .expectedIdentifier (c :: s))

def nextItem (first : Bool) (s : Text) : Except Halt (Option Text) :=
  match skipSpace s with
  | [] => .error (.past .unfinishedList [])
  | ']' :: _ => .ok none
  | c :: r =>
    if first then .ok (some (c :: r))
    else if c = ',' then
      match skipSpace r with
      | [] => .error (.past .unfinishedValue [])
      | ']' :: t => .error (.past .trailingComma (']' :: t))
      | t => .ok (some t)
    else .error (.past .expectedListEnd (c :: r))

def nextKey (first : Bool) (s : Text) : Except Halt (Option Text) :=
  match skipSpace s with
  | [] => .error (.past .unfinishedObject [])
  | '}' :: _ => .ok none
  | c :: r =>
    if first then
      if c = '"' then .ok (some r) else .error (.past .keyNotString (c :: r))
    else if c = ',' then
      match skipSpace r with
      | [] => .error (.past .unfinishedValue [])
      | '"' :: t => .ok (some t)
      | '}' :: t => .error (.past .trailingComma ('}' :: t))
      | t => .error (.past .keyNotString t)
    else .error (.past .expectedObjectEnd (c :: r))

def colon (s : Text) : Except Halt Text :=
  match skipSpace s with
  | [] => .error (.past .unfinishedObject [])
  | ':' :: r => .ok r
  | t => .error (.past .expectedColon t)

def closeList (s : Text) : Except Halt Text :=
  match skipSpace s with
  | [] => .error (.past .unfinishedList [])
  | ']' :: r => .ok r
  | ',' :: r =>
    match skipSpace r with
    | ']' :: t => .error (.past .trailingComma (']' :: t))
    | t => .error (.past .trailingText t)
  | t => .error (.past .trailingText t)

def closeObject (s : Text) : Except Halt Text :=
  match skipSpace s with
  | [] => .error (.past .unfinishedObject [])
  | '}' :: r => .ok r
  | ',' :: r => .error (.past .trailingComma (',' :: r))
  | t => .error (.past .trailingText t)

/-- A floating fault comes to rest where the end of the list was looked for. -/
def Halt.settleList : Halt → Halt
  | placed cause left => placed cause left
  | floating cause rest =>
    match skipSpace rest with
    | ']' :: r => here cause r
    | ',' :: r => here cause (skipSpace r)
    | t => here cause t

def Halt.settleObject : Halt → Halt
  | placed cause left => placed cause left
  | floating cause rest =>
    match skipSpace rest with
    | '}' :: r => here cause r
    | t => here cause t

def listed (items : Read α) : Read α :=
  match items with
  | .error halt => .error halt.settleList
  | .ok (a, r) => (closeList r).map fun r => (a, r)

def braced (members : Read α) : Read α :=
  match members with
  | .error halt => .error halt.settleObject
  | .ok (a, r) => (closeObject r).map fun r => (a, r)

def Fault.ofHalt (document : Text) (halt : Halt) : Fault :=
  let bytes := Text.utf8 document
  let consumed := bytes.take (bytes.length - halt.left)
  ⟨halt.cause, consumed.count 10 + 1, (consumed.reverse.takeWhile (· != 10)).length⟩

def document (read : Text → Read α) (text : Text) : Except Fault α :=
  match read text with
  | .error halt => .error (.ofHalt text halt)
  | .ok (a, rest) =>
    match skipSpace rest with
    | [] => .ok a
    | t => .error (.ofHalt text (.past .trailingText t))

end Descramble.Json
