import Descramble.Json.Fault
import Descramble.Operation
import Descramble.Text.Basic

namespace Descramble.Url

inductive Fault
  | relativeWithoutBase
  | emptyHost
  | invalidPort
  | invalidIpv4
  | invalidIpv6
  | invalidHostName
  | invalidHostCharacter
  deriving DecidableEq

def Fault.message : Fault → Text
  | .relativeWithoutBase => "relative URL without a base".toList
  | .emptyHost => "empty host".toList
  | .invalidPort => "invalid port number".toList
  | .invalidIpv4 => "invalid IPv4 address".toList
  | .invalidIpv6 => "invalid IPv6 address".toList
  | .invalidHostName => "invalid international domain name".toList
  | .invalidHostCharacter => "invalid domain character".toList

end Descramble.Url

namespace Descramble

inductive NumeralFault
  | invalidDigit
  | tooLarge
  deriving DecidableEq

def NumeralFault.message : NumeralFault → Text
  | .invalidDigit => "invalid digit found in string".toList
  | .tooLarge => "number too large to fit in target type".toList

inductive FileFault
  | missing
  | directory
  | invalidText
  | refused (reason : Text)
  deriving DecidableEq

def FileFault.message : FileFault → Text
  | .missing => "No such file or directory (os error 2)".toList
  | .directory => "Is a directory (os error 21)".toList
  | .invalidText => "stream did not contain valid UTF-8".toList
  | .refused reason => reason

inductive PatternFault
  | malformed (reason : Text)
  | tooLarge (limit : Nat)
  deriving DecidableEq

def PatternFault.message : PatternFault → Text
  | .malformed reason => reason
  | .tooLarge limit =>
    "Compiled regex exceeds size limit of ".toList ++ Text.decimal limit ++ " bytes.".toList

/-- Everything that can go wrong between a script and a deciphered address. `shared` marks a
failure that every caller waiting for the same script version is told. -/
inductive Fault
  | entryNotFound (key : Text)
  | bodyNotFound (name : Text)
  | swapOutOfRange (index : UInt64) (length : Nat)
  | unknownOperation (call : Text)
  | missingOperand (kind : Kind) (statement : Text)
  | versionNotFound
  | invalidUrl (text : Text)
  | badNumeral (cause : NumeralFault)
  | badFile (cause : FileFault)
  | badJson (cause : Json.Fault)
  | badUrl (cause : Url.Fault)
  | badPattern (cause : PatternFault)
  | shared (inner : Fault)
  deriving DecidableEq

namespace Fault

/-- The text of the fault that lies below this one, if another part of the library raised it. -/
def source? : Fault → Option Text
  | badNumeral cause => some cause.message
  | badFile cause => some cause.message
  | badJson cause => some cause.message
  | badUrl cause => some cause.message
  | badPattern cause => some cause.message
  | shared inner => inner.source?
  | _ => none

def message : Fault → Text
  | entryNotFound key =>
    "Entry function for key \"".toList ++ key ++ "\" not found in player script".toList
  | bodyNotFound name => "Function body not found for '".toList ++ name ++ ['\'']
  | swapOutOfRange index length =>
    "Swap index ".toList ++ Text.decimal index.toNat ++ " out of range for length ".toList ++
      Text.decimal length
  | unknownOperation call => "Unknown operation: ".toList ++ call
  | missingOperand kind statement =>
    "Missing ".toList ++ kind.name ++ " operand in statement '".toList ++ statement ++ ['\'']
  | versionNotFound => "Player version not found".toList
  | invalidUrl text => "Invalid URL: ".toList ++ text
  | badNumeral cause => "Parse error: ".toList ++ cause.message
  | badFile cause => "IO error: ".toList ++ cause.message
  | badJson cause => "JSON error: ".toList ++ cause.message
  | badUrl cause => "URL parsing error: ".toList ++ cause.message
  | badPattern cause => "Regex error: ".toList ++ cause.message
  | shared inner => inner.message

def chain (fault : Fault) : Text :=
  match fault.source? with
  | none => fault.message
  | some source => fault.message ++ ": ".toList ++ source

/-- The script version as a whole is unusable. -/
def isParseFailure : Fault → Bool
  | entryNotFound _ | bodyNotFound _ | unknownOperation _ | missingOperand _ _ | badNumeral _
  | badPattern _ => true
  | shared inner => inner.isParseFailure
  | _ => false

/-- Only one signature cannot be deciphered. -/
def isApplyFailure : Fault → Bool
  | swapOutOfRange _ _ => true
  | shared inner => inner.isApplyFailure
  | _ => false

end Fault
end Descramble
