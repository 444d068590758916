import Descramble.Proofs.CommandLine.Outcome

namespace Descramble.CommandLine

variable {files : Files} {a : Arguments} {version : Text} {p : Program}

/-- Of the command line only the stream and its parameter matter for the results. -/
theorem resultsOf_congr (a a' : Arguments) (url : a'.url = a.url)
    (parameter : a'.parameter = a.parameter)
    (ss : List Text) : resultsOf a' p ss = resultsOf a p ss := by
  induction ss with
  | nil => rfl
  | cons s ss ih => simp only [resultsOf, resultOf, url, parameter, ih]

/-- Nor does an answer look at more than what is given to it and at what it has to show. -/
theorem answer_congr (a a' : Arguments) (url : a'.url = a.url)
    (parameter : a'.parameter = a.parameter) (signatures : a'.signatures = a.signatures)
    (json : a'.json = a.json) (flag : a'.printProgram = a.printProgram)
    (level : a'.verbosity = a.verbosity) (version : Text) (p : Program) :
    answer a' version p = answer a version p := by
  unfold answer programLines programNotices
  rw [signatures, resultsOf_congr a a' url parameter, json, flag, level]

def Arguments.shown (a : Arguments) (quiet verbose printProgram : Bool) : Arguments :=
  { a with quiet, verbose, printProgram }

/-- What can be seen of a run through a filter for its log. -/
def Outcome.seen (o : Outcome) (filter : Filter) : Outcome := o.logged (o.log.filter filter)

def Result.brief (r : Result) : Line := .payload r.payload

def Result.full (r : Result) : List Line := [r.brief, .origin r.signature]

section

variable (quiet verbose printProgram : Bool)

end

/-- The messages that tell the version. -/
def labels (version : Text) : List Record :=
  [⟨.info, "Using player version ".toList ++ version⟩,
    ⟨.debug, "Player source cache miss for ".toList ++ version⟩]

end Descramble.CommandLine
