import Descramble.Json.Value
import Descramble.Proofs.Text.Run

namespace Descramble.Json

abbrev Space := Text.Run isSpace

inductive Character : Char → Text → Prop
  | plain (quote : c ≠ '"') (backslash : c ≠ '\\') (control : 32 ≤ c.toNat) : Character c [c]
  | short (letter : (e, c) ∈ shortEscapes) : Character c ['\\', e]
  | code (four : digits.length = 4) (number : hexNumber? digits = some c.toNat) :
    Character c ('\\' :: 'u' :: digits)
  | pair (four : high.length = 4) (leading : hexNumber? high = some n) (isLeading : isLeading n)
    (four' : low.length = 4) (trailing : hexNumber? low = some m) (isTrailing : isTrailing m) :
    Character (Char.ofNat (Json.pair n m)) ('\\' :: 'u' :: (high ++ '\\' :: 'u' :: low))

/-- The ways to write the characters of a string, without the quotes around them. -/
inductive Spelled : Text → Text → Prop
  | nil : Spelled [] []
  | cons (first : Character c u) (rest : Spelled s t) : Spelled (c :: s) (u ++ t)

def memberText (key : Text) (before behind : Space) (value : Text) : Text :=
  '"' :: (key ++ '"' :: (before.text ++ ':' :: (behind.text ++ value)))

mutual

/-- The ways to write a value whose lists and objects nest at most to the given depth. Floats are
left out: a numeral gives a float only if it is no whole number of 64 bits. -/
inductive Written : Nat → Value → Text → Prop
  | null : Written depth .null ['n', 'u', 'l', 'l']
  | true : Written depth (.boolean true) ['t', 'r', 'u', 'e']
  | false : Written depth (.boolean false) ['f', 'a', 'l', 's', 'e']
  | natural (small : n < UInt64.size) : Written depth (.number (.natural n)) (Text.decimal n)
  | negative (nonzero : 0 < n) (small : n ≤ signWeight) :
    Written depth (.number (.negative n)) ('-' :: Text.decimal n)
  | string (content : Spelled s t) : Written depth (.string s) ('"' :: (t ++ ['"']))
  | noItems (gap : Space) : Written (depth + 1) (.list []) ('[' :: (gap.text ++ [']']))
  | list (gap : Space) (first : Written depth v t) (rest : WrittenItems depth vs u) :
    Written (depth + 1) (.list (v :: vs)) ('[' :: (gap.text ++ (t ++ u)))
  | noMembers (gap : Space) : Written (depth + 1) (.object []) ('{' :: (gap.text ++ ['}']))
  | object (gap before behind : Space) (key : Spelled k s) (first : Written depth v t)
    (rest : WrittenMembers depth ms u) :
    Written (depth + 1) (.object ((k, v) :: ms))
      ('{' :: (gap.text ++ (memberText s before behind t ++ u)))

inductive WrittenItems : Nat → List Value → Text → Prop
  | nil (gap : Space) : WrittenItems depth [] (gap.text ++ [']'])
  | cons (gap gap' : Space) (first : Written depth v t) (rest : WrittenItems depth vs u) :
    WrittenItems depth (v :: vs) (gap.text ++ ',' :: (gap'.text ++ (t ++ u)))

inductive WrittenMembers : Nat → List (Text × Value) → Text → Prop
  | nil (gap : Space) : WrittenMembers depth [] (gap.text ++ ['}'])
  | cons (gap gap' before behind : Space) (key : Spelled k s) (first : Written depth v t)
    (rest : WrittenMembers depth ms u) :
    WrittenMembers depth ((k, v) :: ms)
      (gap.text ++ ',' :: (gap'.text ++ (memberText s before behind t ++ u)))

end

end Descramble.Json
