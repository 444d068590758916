import Descramble.Json.Number
import Descramble.Json.String

namespace Descramble.Json

def skipScalar? : Text → Option (Except Halt Text)
  | [] => none
  | c :: r =>
    if c = 'n' then some (word ['u', 'l', 'l'] r)
    else if c = 't' then some (word ['r', 'u', 'e'] r)
    else if c = 'f' then some (word ['a', 'l', 's', 'e'] r)
    else if c = '-' then some (skipNumber r)
    else if c.isDigit then some (skipNumber (c :: r))
    else if c = '"' then some (skipString r)
    else none

def skipKey (s : Text) : Except Halt Text :=
  match skipSpace s with
  | [] => .error (.past .unfinishedObject [])
  | '"' :: r => (skipString r).bind colon
  | t => .error (.past .keyNotString t)

mutual

/-- The text behind a value that does not matter. It may nest to any depth. -/
def skip (fuel : Nat) (s : Text) : Except Halt Text :=
  match fuel with
  | 0 => .error (.past .tooDeep s)
  | fuel + 1 =>
    match skipSpace s with
    | [] => .error (.past .unfinishedValue [])
    | c :: r =>
      match skipScalar? (c :: r) with
      | some found => found
      | none =>
        if c = '[' then
          match skipSpace r with
          | [] => .error (.past .unfinishedList [])
          | ']' :: r => .ok r
          | t => skipItems fuel t
        else if c = '{' then
          match skipSpace r with
          | [] => .error (.past .unfinishedObject [])
          | '}' :: r => .ok r
          | t => skipMembers fuel t
        else .error (.past .expectedValue (c :: r))

def skipItems (fuel : Nat) (s : Text) : Except Halt Text :=
  match fuel with
  | 0 => .error (.past .tooDeep s)
  | fuel + 1 =>
    match skip fuel s with
    | .error halt => .error halt
    | .ok r =>
      match skipSpace r with
      | [] => .error (.past .unfinishedList [])
      | ']' :: r => .ok r
      | ',' :: r => skipItems fuel r
      | t => .error (.past .expectedListEnd t)

def skipMembers (fuel : Nat) (s : Text) : Except Halt Text :=
  match fuel with
  | 0 => .error (.past .tooDeep s)
  | fuel + 1 =>
    match (skipKey s).bind (skip fuel) with
    | .error halt => .error halt
    | .ok r =>
      match skipSpace r with
      | [] => .error (.past .unfinishedObject [])
      | '}' :: r => .ok r
      | ',' :: r => skipMembers fuel r
      | t => .error (.past .expectedObjectEnd t)

end

end Descramble.Json
