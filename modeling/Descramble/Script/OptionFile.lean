import Descramble.Json.Skip
import Descramble.Json.Value
import Descramble.Script.Parser

namespace Descramble.Script

open Json

namespace Options

def keyField : Text := "signature-key".toList
def extractionField : Text := "extraction".toList
def policyField : Text := "unknown-calls".toList

structure Given where
  key : Option Text := none
  extraction : Option Extraction := none
  policy : Option Policy := none

def Given.options (g : Given) : Options :=
  ⟨g.key.getD defaultKey, g.extraction.getD .firstBrace, g.policy.getD .ignore⟩

def readKey (s : Text) : Read Text := stringOf "a string".toList s

def readExtraction (s : Text) : Read Extraction :=
  choiceOrKey Extraction.ofName? [Extraction.firstBrace.name, Extraction.balanced.name] s

def readPolicy (s : Text) : Read Policy :=
  choiceOrKey Policy.ofName? [Policy.ignore.name, Policy.failFast.name] s

def readOnce (name : Text) (old : Option α) (read : Text → Read α) (s : Text) : Read α :=
  if old.isSome then .error (.floating (.duplicateField name) s) else (colon s).bind read

/-- One member, whose name has been read. Unknown ones are passed over. -/
def readMember (fuel : Nat) (g : Given) (name s : Text) : Read Given :=
  if name = keyField then
    (readOnce name g.key readKey s).map fun p => ({ g with key := some p.1 }, p.2)
  else if name = extractionField then
    (readOnce name g.extraction readExtraction s).map fun p =>
      ({ g with extraction := some p.1 }, p.2)
  else if name = policyField then
    (readOnce name g.policy readPolicy s).map fun p => ({ g with policy := some p.1 }, p.2)
  else ((colon s).bind fun r => skip fuel r).map fun r => (g, r)

def readMembers (fuel : Nat) (first : Bool) (g : Given) (s : Text) : Read Given :=
  match fuel with
  | 0 => .error (.past .tooDeep s)
  | fuel + 1 =>
    match nextKey first s with
    | .error halt => .error halt
    | .ok none => .ok (g, skipSpace s)
    | .ok (some r) =>
      match string r with
      | .error halt => .error halt
      | .ok (name, r) =>
        match readMember fuel g name r with
        | .error halt => .error halt
        | .ok (g, r) => readMembers fuel false g r

/-- An item of the short form, in which the fields have no names and later ones may be absent. -/
def readItem (first : Bool) (read : Text → Read α) (s : Text) : Read (Option α) :=
  match nextItem first s with
  | .error halt => .error halt
  | .ok none => .ok (none, skipSpace s)
  | .ok (some r) => (read r).map fun p => (some p.1, p.2)

def readItems (s : Text) : Read Given :=
  match readItem true readKey s with
  | .error halt => .error halt
  | .ok (key, s) =>
    match readItem false readExtraction s with
    | .error halt => .error halt
    | .ok (extraction, s) =>
      (readItem false readPolicy s).map fun p => (⟨key, extraction, p.1⟩, p.2)

def read (s : Text) : Read Given :=
  match skipSpace s with
  | [] => .error (.past .unfinishedValue [])
  | '[' :: r => listed (readItems r)
  | '{' :: r => braced (readMembers (steps r) true {} r)
  | t => .error (wrongType "struct ParserOptions".toList t)

def ofJson (text : Text) : Except Json.Fault Options := (document read text).map Given.options

def ofFile (content : Except FileFault (List UInt8)) : Except Fault Options :=
  match content with
  | .error fault => .error (.badFile fault)
  | .ok bytes =>
    match Text.ofUtf8? bytes with
    | none => .error (.badFile .invalidText)
    | some text =>
      match ofJson text with
      | .ok options => .ok options
      | .error fault => .error (.badJson fault)

end Options
end Descramble.Script
