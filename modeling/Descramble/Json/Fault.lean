import Descramble.Text.Quoted

namespace Descramble.Json

inductive Found
  | null
  | boolean (b : Bool)
  | natural (n : Nat)
  | negative (n : Nat)
  | real (numeral : Text)
  | string (s : Text)
  | list
  | object
  deriving DecidableEq

def Found.text : Found → Text
  | .null => "null".toList
  | .boolean true => "boolean `true`".toList
  | .boolean false => "boolean `false`".toList
  | .natural n => "integer `".toList ++ Text.decimal n ++ "`".toList
  | .negative n => "integer `-".toList ++ Text.decimal n ++ "`".toList
  | .real numeral => "floating point `".toList ++ numeral ++ "`".toList
  | .string s => "string ".toList ++ Text.quoted s
  | .list => "sequence".toList
  | .object => "map".toList

inductive Cause
  | unfinishedList
  | unfinishedObject
  | unfinishedString
  | unfinishedValue
  | expectedColon
  | expectedListEnd
  | expectedObjectEnd
  | expectedIdentifier
  | expectedValue
  | invalidEscape
  | invalidNumber
  | numberOutOfRange
  | controlCharacter
  | keyNotString
  | loneSurrogate
  | unfinishedSurrogate
  | trailingComma
  | trailingText
  | tooDeep
  | wrongType (found : Found) (expected : Text)
  | wrongValue (found : Found) (expected : Text)
  | wrongLength (length : Nat) (expected : Text)
  | missingField (name : Text)
  | duplicateField (name : Text)
  | unknownVariant (name : Text) (choices : List Text)
  deriving DecidableEq

def ticked (name : Text) : Text := "`".toList ++ name ++ "`".toList

def choiceText : List Text → Text
  | [] => "there are no variants".toList
  | [a] => "expected ".toList ++ ticked a
  | [a, b] => "expected ".toList ++ ticked a ++ " or ".toList ++ ticked b
  | choices => "expected one of ".toList ++ Text.join ", ".toList (choices.map ticked)

def Cause.text : Cause → Text
  | .unfinishedList => "EOF while parsing a list".toList
  | .unfinishedObject => "EOF while parsing an object".toList
  | .unfinishedString => "EOF while parsing a string".toList
  | .unfinishedValue => "EOF while parsing a value".toList
  | .expectedColon => "expected `:`".toList
  | .expectedListEnd => "expected `,` or `]`".toList
  | .expectedObjectEnd => "expected `,` or `\x7d`".toList
  | .expectedIdentifier => "expected ident".toList
  | .expectedValue => "expected value".toList
  | .invalidEscape => "invalid escape".toList
  | .invalidNumber => "invalid number".toList
  | .numberOutOfRange => "number out of range".toList
  | .controlCharacter => "control character (\\u0000-\\u001F) found while parsing a string".toList
  | .keyNotString => "key must be a string".toList
  | .loneSurrogate => "lone leading surrogate in hex escape".toList
  | .unfinishedSurrogate => "unexpected end of hex escape".toList
  | .trailingComma => "trailing comma".toList
  | .trailingText => "trailing characters".toList
  | .tooDeep => "recursion limit exceeded".toList
  | .wrongType found expected =>
    "invalid type: ".toList ++ found.text ++ ", expected ".toList ++ expected
  | .wrongValue found expected =>
    "invalid value: ".toList ++ found.text ++ ", expected ".toList ++ expected
  | .wrongLength length expected =>
    "invalid length ".toList ++ Text.decimal length ++ ", expected ".toList ++ expected
  | .missingField name => "missing field ".toList ++ ticked name
  | .duplicateField name => "duplicate field ".toList ++ ticked name
  | .unknownVariant name choices =>
    "unknown variant ".toList ++ ticked name ++ ", ".toList ++ choiceText choices

/-- Lines count from one; a column is the number of bytes read on its line. -/
structure Fault where
  cause : Cause
  line : Nat
  column : Nat
  deriving DecidableEq

def Fault.message (fault : Fault) : Text :=
  fault.cause.text ++ " at line ".toList ++ Text.decimal fault.line ++ " column ".toList ++
    Text.decimal fault.column

end Descramble.Json
