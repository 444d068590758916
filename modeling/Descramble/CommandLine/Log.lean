import Descramble.CommandLine.Arguments
import Descramble.Text.Quoted

namespace Descramble.CommandLine

open Script

def decimalText (whole part places : Nat) : Text :=
  let digits := Text.decimal part
  let padded := List.replicate (places - digits.length) '0' ++ digits
  match (padded.reverse.dropWhile (· == '0')).reverse with
  | [] => Text.decimal whole
  | kept => Text.decimal whole ++ '.' :: kept

/-- A duration in the largest of its units, seconds at most. -/
def durationText (d : Duration) : Text :=
  let n := d.nanoseconds
  if 0 < d.seconds then decimalText d.seconds n 9 ++ ['s']
  else if 1000000 ≤ n then decimalText (n / 1000000) (n % 1000000) 6 ++ ['m', 's']
  else if 1000 ≤ n then decimalText (n / 1000) (n % 1000) 3 ++ ['µ', 's']
  else Text.decimal n ++ ['n', 's']

def boolText (b : Bool) : Text := if b then "true".toList else "false".toList

def optionText : Option Text → Text
  | none => "None".toList
  | some s => "Some(".toList ++ s ++ [')']

def listText (ss : List Text) : Text := '[' :: Text.join [',', ' '] ss ++ [']']

def recordText (name : Text) (fields : List (String × Text)) : Text :=
  name ++ " \x7b ".toList ++
    Text.join [',', ' '] (fields.map fun f => f.1.toList ++ ": ".toList ++ f.2) ++ " \x7d".toList

def extractionText : Extraction → Text
  | .firstBrace => "FirstBrace".toList
  | .balanced => "Balanced".toList

def policyText : Policy → Text
  | .ignore => "Ignore".toList
  | .failFast => "FailFast".toList

def optionsText (o : Options) : Text :=
  recordText "ParserOptions".toList [("signature_key", Text.quoted o.key),
    ("extraction", extractionText o.extraction), ("unknown_calls", policyText o.policy)]

namespace Arguments

def text (a : Arguments) : Text :=
  recordText "Args".toList
    [("script", Text.quoted a.script), ("signatures", listText (a.signatures.map Text.quoted)),
      ("key", optionText (a.key.map Text.quoted)),
      ("extraction", optionText (a.extraction.map extractionText)), ("strict", boolText a.strict),
      ("config", optionText (a.config.map Text.quoted)),
      ("print_program", boolText a.printProgram), ("url", optionText (a.url.map Text.quoted)),
      ("param", Text.quoted a.parameter), ("html", optionText (a.html.map Text.quoted)),
      ("player_version", optionText (a.playerVersion.map Text.quoted)),
      ("cache_ttl", "Duration(".toList ++ durationText a.limits.lifetime ++ [')']),
      ("cache_capacity", Text.decimal a.limits.capacity), ("json", boolText a.json),
      ("verbose", boolText a.verbose), ("quiet", boolText a.quiet)]

def opening (a : Arguments) : Record := ⟨.debug, "Starting rsig with args: ".toList ++ a.text⟩

/-- A filter of the environment wins over the one for how much is printed. -/
def filter (a : Arguments) (environment : Option Filter) : Filter :=
  environment.getD (Filter.ofName a.verbosity.logFilter)

end Arguments
end Descramble.CommandLine
