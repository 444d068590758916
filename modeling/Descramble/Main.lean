import Descramble.CommandLine.Run

open Descramble CommandLine

def readFile (path : Text) : IO (Except FileFault (List UInt8)) := do
  try
    return .ok (← IO.FS.readBinFile (String.ofList path)).toList
  catch
    | .noFileOrDirectory .. => return .error .missing
    | .inappropriateType .. => return .error .directory
    | e => return .error (.refused (toString e).toList)

def refuse (refusal : Refusal) : IO UInt32 := do
  match refusal with
  | .help => IO.println "usage: descramble [options] SCRIPT [SIGNATURES]"
  | .version => IO.println "descramble 0.1.0"
  | _ => IO.eprintln "error: the command line is not understood"
  return .ofNat refusal.status

def main (words : List String) : IO UInt32 := do
  let start ← IO.monoMsNow
  match Arguments.ofWords (words.map String.toList) with
  | .error refusal => refuse refusal
  | .ok arguments =>
    let contents ← arguments.files.mapM fun path => return (path, ← readFile path)
    let outcome := run (fun path => (contents.lookup path).getD (.error .missing)) arguments
    let environment := (← IO.getEnv "RUST_LOG").map fun level => Filter.ofName level.toList
    let log := outcome.log.filter (arguments.filter environment)
    IO.eprint (String.ofList (logText log ++ noticeText .plain outcome.notices))
    let elapsed := (← IO.monoMsNow) - start
    let text := lineText .plain (Text.decimal elapsed ++ "ms".toList) outcome.lines
    IO.print (String.ofList text)
    match outcome.ending with
    | .abort reason => IO.eprintln (String.ofList reason)
    | _ => pure ()
    return .ofNat outcome.ending.status
