import Descramble.Cache
import Descramble.Script.Parser
import Descramble.Url.Query

namespace Descramble.CommandLine

open Script

inductive Verbosity
  | quiet
  | normal
  | verbose
  deriving DecidableEq

namespace Verbosity

def name : Verbosity → Text
  | quiet => "Quiet".toList
  | normal => "Normal".toList
  | verbose => "Verbose".toList

def logFilter : Verbosity → Text
  | quiet => "error".toList
  | normal => "warn".toList
  | verbose => "debug".toList

end Verbosity

structure Arguments where
  script : Text
  signatures : List Text := []
  key : Option Text := none
  extraction : Option Extraction := none
  strict : Bool := false
  config : Option Text := none
  printProgram : Bool := false
  url : Option Text := none
  parameter : Text := defaultParameter
  html : Option Text := none
  playerVersion : Option Text := none
  limits : Limits := {}
  json : Bool := false
  verbose : Bool := false
  quiet : Bool := false
  deriving DecidableEq

namespace Arguments

/-- Quiet wins over verbose. -/
def verbosity (a : Arguments) : Verbosity :=
  if a.quiet then .quiet else if a.verbose then .verbose else .normal

def overlay (a : Arguments) (o : Options) : Options where
  key := a.key.getD o.key
  extraction := a.extraction.getD o.extraction
  policy := if a.strict then .failFast else o.policy

def files (a : Arguments) : List Text := a.config.toList ++ [a.script] ++ a.html.toList

end Arguments

inductive Refusal
  | missingArgument
  | invalidValue
  | rejectedValue
  | unknownArgument
  | repeatedArgument
  | unexpectedValue
  | help
  | version
  deriving DecidableEq

inductive Setting
  | key
  | extraction
  | config
  | url
  | parameter
  | html
  | playerVersion
  | lifetime
  | capacity
  deriving DecidableEq

inductive Flag
  | strict
  | printProgram
  | json
  | verbose
  | quiet
  deriving DecidableEq

inductive Switch
  | setting (s : Setting)
  | flag (f : Flag)
  | help
  | version
  deriving DecidableEq

namespace Switch

def long : List (Text × Switch) :=
  [("key".toList, setting .key), ("extraction".toList, setting .extraction),
   ("strict".toList, flag .strict), ("config".toList, setting .config),
   ("print-program".toList, flag .printProgram), ("url".toList, setting .url),
   ("param".toList, setting .parameter), ("html".toList, setting .html),
   ("player-version".toList, setting .playerVersion), ("cache-ttl".toList, setting .lifetime),
   ("cache-capacity".toList, setting .capacity), ("json".toList, flag .json),
   ("verbose".toList, flag .verbose), ("quiet".toList, flag .quiet), ("help".toList, help),
   ("version".toList, version)]

def short : List (Char × Switch) :=
  [('c', setting .config), ('p', flag .printProgram), ('u', setting .url), ('v', flag .verbose),
   ('q', flag .quiet), ('h', help), ('V', version)]

end Switch

/-- What the words so far have set. A setting or a script is only looked at when the next one
comes or the line ends, so an unknown option in between is reported first. -/
structure Draft where
  arguments : Arguments
  script : Option Text := none
  given : List Switch := []
  waiting : Option Setting := none
  value : Option Text := none
  onlyValues : Bool := false

namespace Draft

def capacity? (s : Text) : Option Nat :=
  let digits := match s with
    | '+' :: r => r
    | r => r
  if digits.isEmpty then none
  else
    match readDigits 0 digits with
    | .ok n => some n
    | .error _ => none

def path (s : Text) : Except Refusal Text := if s.isEmpty then .error .invalidValue else .ok s

def assign (a : Arguments) (setting : Setting) (v : Text) : Except Refusal Arguments :=
  match setting with
  | .key => .ok { a with key := some v }
  | .extraction =>
    match Extraction.ofName? v with
    | some e => .ok { a with extraction := some e }
    | none => .error .invalidValue
  | .config => (path v).map fun p => { a with config := some p }
  | .url => .ok { a with url := some v }
  | .parameter => .ok { a with parameter := v }
  | .html => (path v).map fun p => { a with html := some p }
  | .playerVersion => .ok { a with playerVersion := some v }
  | .lifetime =>
    match Duration.ofText? v with
    | some d => .ok { a with limits := { a.limits with lifetime := d } }
    | none => .error .rejectedValue
  | .capacity =>
    match capacity? v with
    | some n => .ok { a with limits := { a.limits with capacity := n } }
    | none => .error .rejectedValue

def raise (a : Arguments) : Flag → Arguments
  | .strict => { a with strict := true }
  | .printProgram => { a with printProgram := true }
  | .json => { a with json := true }
  | .verbose => { a with verbose := true }
  | .quiet => { a with quiet := true }

/-- Looks at what is waiting: a setting needs a value, may come once, and must suit. -/
def resolve (d : Draft) : Except Refusal Draft :=
  match d.waiting with
  | some setting =>
    match d.value with
    | none => .error .invalidValue
    | some v =>
      if .setting setting ∈ d.given then .error .repeatedArgument
      else
        (assign d.arguments setting v).map fun a =>
          { d with
            arguments := a
            given := .setting setting :: d.given
            waiting := none
            value := none }
  | none =>
    match d.script with
    | some s => if s.isEmpty then .error .invalidValue else .ok d
    | none => .ok d

def addValue (d : Draft) (v : Text) : Except Refusal Draft :=
  if d.waiting.isSome ∧ d.value.isNone ∧ !d.onlyValues then .ok { d with value := some v }
  else
    d.resolve.map fun d =>
      if d.script.isNone then { d with script := some v }
      else { d with arguments := { d.arguments with signatures := d.arguments.signatures ++ [v] } }

def addSwitch (d : Draft) (s : Switch) (attached : Option Text) : Except Refusal Draft := do
  match s with
  | .setting setting =>
    let d ← d.resolve
    let d := { d with waiting := some setting, value := attached }
    if attached.isSome then d.resolve else return d
  | s =>
    if attached.isSome then throw .unexpectedValue
    let d ← d.resolve
    match s with
    | .help => throw .help
    | .version => throw .version
    | .flag f =>
      if s ∈ d.given then throw .repeatedArgument
      else return { d with arguments := raise d.arguments f, given := s :: d.given }
    | .setting _ => return d

def addLong (d : Draft) (word : Text) : Except Refusal Draft :=
  let name := word.takeWhile (· != '=')
  let attached := match word.dropWhile (· != '=') with
    | [] => none
    | _ :: v => some v
  match Switch.long.lookup name with
  | some s => d.addSwitch s attached
  | none => .error .unknownArgument

/-- Letters stand for options up to one that takes a value, which is the rest of the word. -/
def addShort (d : Draft) : Text → Except Refusal Draft
  | [] => .ok d
  | c :: r =>
    match Switch.short.lookup c with
    | none => .error .unknownArgument
    | some (.setting s) =>
      d.addSwitch (.setting s) (match r with
        | [] => none
        | '=' :: v => some v
        | v => some v)
    | some s =>
      match d.addSwitch s none with
      | .ok d => d.addShort r
      | .error refusal => .error refusal

def add (d : Draft) (word : Text) : Except Refusal Draft :=
  if d.onlyValues then d.addValue word
  else
    match word with
    | ['-', '-'] => .ok { d with onlyValues := true }
    | '-' :: '-' :: r => d.addLong r
    | '-' :: c :: r => d.addShort (c :: r)
    | word => d.addValue word

def finish (d : Draft) : Except Refusal Arguments := do
  let d ← d.resolve
  match d.script with
  | some s => return { d.arguments with script := s }
  | none => throw .missingArgument

end Draft

def Arguments.ofWords (words : List Text) : Except Refusal Arguments := do
  let d ← words.foldlM Draft.add { arguments := { script := [] } }
  d.finish

end Descramble.CommandLine
