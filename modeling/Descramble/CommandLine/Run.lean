import Descramble.CommandLine.Log
import Descramble.CommandLine.Output
import Descramble.Decipherer
import Descramble.Fingerprint
import Descramble.Page.Version
import Descramble.Script.OptionFile

namespace Descramble.CommandLine

open Script

abbrev Files := Text → Except FileFault (List UInt8)

/-- How a run ends: it answers, it fails with a message, or the cache cannot be made. -/
inductive Ending
  | success
  | failure
  | abort (reason : Text)
  deriving DecidableEq

/-- What a run leaves: lines on standard output, and on standard error its log and, behind that,
its notices. -/
structure Outcome where
  lines : List Line := []
  notices : List Notice := []
  ending : Ending := .success
  log : List Record := []

def Outcome.failed (lines : List Line) (notices : List Notice) (message : Text) : Outcome :=
  { lines, notices := notices ++ [.error message], ending := .failure }

def Outcome.logged (o : Outcome) (log : List Record) : Outcome := { o with log }

def within (context message : Text) : Text := context ++ ": ".toList ++ message

def readText (files : Files) (context path : Text) : Except Text Text :=
  match files path with
  | .error fault => .error (within (context ++ path) fault.message)
  | .ok bytes =>
    match Text.ofUtf8? bytes with
    | some s => .ok s
    | none => .error (within (context ++ path) FileFault.invalidText.message)

def loadOptions (files : Files) (a : Arguments) : Except Text Options :=
  match a.config with
  | none => .ok (a.overlay {})
  | some path =>
    match Options.ofFile (files path) with
    | .ok options => .ok (a.overlay options)
    | .error fault => .error (within ("Failed to load options from ".toList ++ path) fault.chain)

/-- The version on the command line, or else that of the watch page, or else the script's own
fingerprint. -/
def findVersion (files : Files) (a : Arguments) (script : Text) : Logged Text Text :=
  match a.playerVersion, a.html with
  | some version, _ => pure version
  | none, none => pure (Fingerprint.ofScript script)
  | none, some path => do
    let html ← readText files "Failed to read watch page ".toList path
    (Page.findVersion html).mapError fun fault =>
      within ("No player version in ".toList ++ path) fault.chain

def resultOf (a : Arguments) (p : Program) (signature : Text) : Except Text Result :=
  match p.apply signature with
  | .error fault =>
    .error (within ("Failed to decipher signature ".toList ++ signature) fault.chain)
  | .ok deciphered =>
    match a.url with
    | none => .ok { signature, deciphered }
    | some url =>
      match applySignature url a.parameter deciphered with
      | .ok url => .ok { signature, deciphered, url := some url }
      | .error fault => .error fault.chain

/-- The results up to the first failure, and its message. -/
def resultsOf (a : Arguments) (p : Program) : List Text → List Result × Option Text
  | [] => ([], none)
  | s :: ss =>
    match resultOf a p s with
    | .error message => ([], some message)
    | .ok r =>
      let (rs, failure) := resultsOf a p ss
      (r :: rs, failure)

def Result.lines (v : Verbosity) (r : Result) : List Line :=
  .payload (r.url.getD r.deciphered) :: (if v = .verbose then [.origin r.signature] else [])

def programLines (a : Arguments) (version : Text) (p : Program) : List Line :=
  if a.printProgram ∧ !a.json ∧ a.verbosity ≠ .quiet then [.player version, .program p] else []

def programNotices (a : Arguments) (p : Program) : List Notice :=
  if p.isEmpty ∧ a.verbosity ≠ .quiet then
    [.warning "No scrambling operations found, signatures pass through unchanged".toList]
  else []

/-- Deciphers all signatures with a program. A report is only written once all are done. -/
def answer (a : Arguments) (version : Text) (p : Program) : Outcome :=
  let notices := programNotices a p
  match resultsOf a p a.signatures with
  | (rs, failure) =>
    let shown := programLines a version p ++ rs.flatMap (Result.lines a.verbosity)
    match failure with
    | some message => .failed (if a.json then [] else shown) notices message
    | none =>
      if a.json then { lines := [.report ⟨version, p, rs⟩], notices }
      else
        let last := if a.verbosity = .verbose then [.summary rs.length] else []
        { lines := shown ++ last, notices }

def load (files : Files) (a : Arguments) (options : Options) : Logged Text (Text × Program) := do
  let script ← readText files "Failed to read player script ".toList a.script
  let version ← findVersion files a script
  .tell .info ("Using player version ".toList ++ version)
  let parser : Parser := { toOptions := options }
  let d : Decipherer := { parser, cache := .ofLimits a.limits }
  let p ← parsed (d.programLog version (parser.work script).log) (d.program version script).1
  return (version, p)
where
  parsed (log : List Record) (result : Except Fault Program) : Logged Text Program :=
    ⟨log, result.mapError fun fault =>
      within ("Failed to parse player script ".toList ++ a.script) fault.chain⟩

def prepare (files : Files) (a : Arguments) : Logged Outcome (Text × Program) := do
  let options ← (Logged.ofExcept (loadOptions files a)).mapError (.failed [] [])
  .tell .debug ("Parser options: ".toList ++ optionsText options)
  if a.limits.areAccepted then (load files a options).mapError (.failed [] [])
  else .ofExcept (.error { ending := .abort Limits.refusal })

def run (files : Files) (a : Arguments) : Outcome :=
  let prepared := prepare files a
  let outcome := match prepared.result with
    | .error outcome => outcome
    | .ok (version, p) => answer a version p
  outcome.logged (a.opening :: prepared.log)

@[simp] theorem Outcome.lines_logged (o : Outcome) (log : List Record) :
    (o.logged log).lines = o.lines := rfl

@[simp] theorem Outcome.ending_logged (o : Outcome) (log : List Record) :
    (o.logged log).ending = o.ending := rfl

def Ending.status : Ending → Nat
  | success => 0
  | failure => 1
  | abort _ => 101

def Refusal.status : Refusal → Nat
  | help | version => 0
  | _ => 2

end Descramble.CommandLine
