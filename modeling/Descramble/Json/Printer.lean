import Descramble.Json.Value

namespace Descramble.Json

def hexPair (n : Nat) : Text := [Nat.digitChar (n / 16), Nat.digitChar (n % 16)]

def escaped (c : Char) : Text :=
  if c = '"' ∨ c = '\\' then ['\\', c]
  else if c = '\x08' then ['\\', 'b']
  else if c = '\x0c' then ['\\', 'f']
  else if c = '\n' then ['\\', 'n']
  else if c = '\r' then ['\\', 'r']
  else if c = '\t' then ['\\', 't']
  else if c.toNat < 32 then ['\\', 'u', '0', '0'] ++ hexPair c.toNat
  else [c]

def stringText (s : Text) : Text := '"' :: s.flatMap escaped ++ ['"']

def numberText : Number → Text
  | .natural n => Text.decimal n
  | .negative n => '-' :: Text.decimal n
  | .real x => floatText x

def newline (indent : Nat) : Text := '\n' :: List.replicate (2 * indent) ' '

mutual

/-- One item or member on a line, indented by two blanks for each enclosing value. -/
def pretty (indent : Nat) : Value → Text
  | .null => "null".toList
  | .boolean b => (if b then "true" else "false").toList
  | .number n => numberText n
  | .string s => stringText s
  | .list [] => ['[', ']']
  | .list (v :: vs) =>
    '[' :: newline (indent + 1) ++ pretty (indent + 1) v ++ prettyItems (indent + 1) vs ++
      newline indent ++ [']']
  | .object [] => ['{', '}']
  | .object ((key, v) :: ms) =>
    '{' :: newline (indent + 1) ++ stringText key ++ [':', ' '] ++ pretty (indent + 1) v ++
      prettyMembers (indent + 1) ms ++ newline indent ++ ['}']

def prettyItems (indent : Nat) : List Value → Text
  | [] => []
  | v :: vs => ',' :: newline indent ++ pretty indent v ++ prettyItems indent vs

def prettyMembers (indent : Nat) : List (Text × Value) → Text
  | [] => []
  | (key, v) :: ms =>
    ',' :: newline indent ++ stringText key ++ [':', ' '] ++ pretty indent v ++
      prettyMembers indent ms

end

mutual

def compact : Value → Text
  | .null => "null".toList
  | .boolean b => (if b then "true" else "false").toList
  | .number n => numberText n
  | .string s => stringText s
  | .list [] => ['[', ']']
  | .list (v :: vs) => '[' :: compact v ++ compactItems vs ++ [']']
  | .object [] => ['{', '}']
  | .object ((key, v) :: ms) =>
    '{' :: stringText key ++ ':' :: compact v ++ compactMembers ms ++ ['}']

def compactItems : List Value → Text
  | [] => []
  | v :: vs => ',' :: compact v ++ compactItems vs

def compactMembers : List (Text × Value) → Text
  | [] => []
  | (key, v) :: ms => ',' :: stringText key ++ ':' :: compact v ++ compactMembers ms

end

end Descramble.Json
