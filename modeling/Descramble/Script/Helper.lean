import Descramble.Operation
import Descramble.Script.Function

namespace Descramble.Script

structure Helper where
  parameters : List Text
  body : Text
  deriving DecidableEq

def parameterList (s : Text) : List Text :=
  ((Text.pieces (· == ',') s).map Text.trim).filter (!·.isEmpty)

/-- `name : function (parameters) {body}`, with the text behind it. Neither part is nested. -/
def helperAt? (name s : Text) : Option (Helper × Text) := do
  let s ← name.isPrefixOf? s
  let s ← Text.symbol? ':' s
  let s ← functionWord.isPrefixOf? (Text.skipBlank s)
  let s ← Text.symbol? '(' s
  let (parameters, s) ← Text.upTo? ')' s
  let s ← Text.symbol? '{' s
  let (body, s) ← Text.upTo? '}' s
  return (⟨parameterList parameters, body⟩, s)

def helpers (name script : Text) : List Helper :=
  Text.eachName (helperAt? name) 0 true script

def returnWord : Text := ['r', 'e', 't', 'u', 'r', 'n']

def bindingWords : List Text := [['v', 'a', 'r'], ['l', 'e', 't'], ['c', 'o', 'n', 's', 't']]

def selectionWords : List Text :=
  [['s', 'p', 'l', 'i', 'c', 'e'], ['s', 'l', 'i', 'c', 'e'], ['s', 'u', 'b', 's', 't', 'r'],
   ['s', 'u', 'b', 's', 't', 'r', 'i', 'n', 'g']]

/-- The text behind a name that is not the front of a longer one. -/
def name? (name s : Text) : Option Text :=
  match name.isPrefixOf? s with
  | none => none
  | some [] => some []
  | some (c :: r) => if Text.isWordChar c then none else some (c :: r)

def keyword? (word s : Text) : Option Text :=
  match word.isPrefixOf? s with
  | some (c :: r) => if Text.isBlank c then some (Text.skipBlank r) else none
  | _ => none

/-- The argument text of `target.method(`, which a `return` may precede. -/
def selection? (target body : Text) : Option Text := do
  let s := Text.skipBlank body
  let s := (keyword? returnWord s).getD s
  let s ← name? target s
  let s ← Text.symbol? '.' s
  let (method, s) ← Text.word? (Text.skipBlank s)
  let s ← if method ∈ selectionWords then Text.symbol? '(' s else none
  return s.takeWhile (· != ')')

/-- The text behind `var temp = target`. -/
def capture? (target body : Text) : Option Text := do
  let s ← bindingWords.findSome? fun word => keyword? word (Text.skipBlank body)
  let (_, s) ← Text.word? s
  let s ← Text.symbol? '=' s
  name? target (Text.skipBlank s)

namespace Helper

def isReverse (h : Helper) : Bool := h.parameters.length == 1

/-- A part of the first parameter is selected, and the second one tells which. -/
def isSlice (h : Helper) : Bool :=
  match h.parameters with
  | [target, amount] =>
    match selection? target h.body with
    | some arguments => (Text.pieces (!Text.isWordChar ·) arguments).contains amount
    | none => false
  | _ => false

/-- Element 0 of the first parameter is kept aside and then overwritten. -/
def isSwap (h : Helper) : Bool :=
  match h.parameters with
  | [target, _] =>
    match capture? target h.body with
    | some rest =>
      match ['[', '0', ']'].isPrefixOf? (rest.filter (!Text.isBlank ·)) with
      | some rest => Text.hasPart (target ++ ['[', '0', ']', '=']) rest
      | none => false
    | none => false
  | _ => false

end Helper
end Descramble.Script

namespace Descramble.Script

/-- Helpers that the rule accepts scramble in its way. -/
structure Rule where
  kind : Kind
  name : Text
  accepts : Helper → Bool

namespace Rule

def ofKind : Kind → Rule
  | .reverse => ⟨.reverse, "single-parameter".toList, Helper.isReverse⟩
  | .slice => ⟨.slice, "sub-selection".toList, Helper.isSlice⟩
  | .swap => ⟨.swap, "temp-swap".toList, Helper.isSwap⟩

/-- Earlier rules win. -/
def standard : List Rule := [ofKind .reverse, ofKind .slice, ofKind .swap]

def matching (rules : List Rule) (h : Helper) : List Text :=
  (rules.filter (·.accepts h)).map Rule.name

end Rule

/-- The kind of the first rule that accepts some member of the name. -/
def helperKind? (rules : List Rule) (script name : Text) : Option Kind :=
  (rules.find? fun rule => (helpers name script).any rule.accepts).map Rule.kind

end Descramble.Script
