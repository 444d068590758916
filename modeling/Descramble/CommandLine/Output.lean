import Descramble.CommandLine.Arguments
import Descramble.Json.Printer
import Descramble.Program.Json

namespace Descramble.CommandLine

open Json

structure Result where
  signature : Text
  deciphered : Text
  url : Option Text := none
  deriving DecidableEq

structure Report where
  playerVersion : Text
  program : Program
  results : List Result

def Result.toValue (r : Result) : Value :=
  .object ([("signature".toList, .string r.signature),
    ("deciphered".toList, .string r.deciphered)] ++
    r.url.toList.map fun u => ("url".toList, .string u))

def Report.toValue (r : Report) : Value :=
  .object [("player_version".toList, .string r.playerVersion),
    ("program".toList, r.program.toValue),
    ("results".toList, .list (r.results.map Result.toValue))]

def Report.text (r : Report) : Text := pretty 0 r.toValue

inductive Line
  | player (version : Text)
  | program (p : Program)
  | payload (s : Text)
  | origin (signature : Text)
  | report (r : Report)
  | summary (count : Nat)

inductive Notice
  | warning (message : Text)
  | error (message : Text)

structure Palette where
  bold : Text := []
  dimmed : Text := []
  yellow : Text := []
  red : Text := []
  reset : Text := []

namespace Palette

def plain : Palette := {}

def terminal : Palette where
  bold := "\x1b[1m".toList
  dimmed := "\x1b[2m".toList
  yellow := "\x1b[1;33m".toList
  red := "\x1b[1;31m".toList
  reset := "\x1b[0m".toList

end Palette

def Line.text (p : Palette) (elapsed : Text) : Line → Text
  | player version => p.bold ++ "player:".toList ++ p.reset ++ ' ' :: version
  | program q =>
    p.bold ++ "program:".toList ++ p.reset ++ ' ' :: q.label ++ " (".toList ++
      Text.decimal q.length ++ " operations)".toList
  | payload s => s
  | origin signature => "  ".toList ++ p.dimmed ++ "from".toList ++ p.reset ++ ' ' :: signature
  | report r => r.text
  | summary count =>
    p.dimmed ++ "debug:".toList ++ p.reset ++ " Deciphered ".toList ++ Text.decimal count ++
      " signatures in ".toList ++ elapsed

def Notice.text (p : Palette) : Notice → Text
  | warning message => p.yellow ++ "warning:".toList ++ p.reset ++ ' ' :: message
  | error message => p.red ++ "error:".toList ++ p.reset ++ ' ' :: message

def lineText (p : Palette) (elapsed : Text) (lines : List Line) : Text :=
  lines.flatMap fun l => l.text p elapsed ++ ['\n']

def noticeText (p : Palette) (notices : List Notice) : Text :=
  notices.flatMap fun n => n.text p ++ ['\n']

def logText (log : List Record) : Text :=
  log.flatMap fun r => r.level.name.map Char.toUpper ++ ' ' :: r.message ++ ['\n']

end Descramble.CommandLine
