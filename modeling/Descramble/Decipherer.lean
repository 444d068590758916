import Descramble.Cache
import Descramble.Program.Apply
import Descramble.Script.Parser

namespace Descramble

open Script

abbrev Parse := Text → Except Fault Program

/-- A parser that reads each script version once. -/
structure Decipherer where
  parser : Parse := Parser.parse {}
  cache : Cache := {}

namespace Decipherer

instance : Coe Parser Parse := ⟨Parser.parse⟩

/-- The program of a version. The script is only looked at if none is kept. -/
def program (d : Decipherer) (version script : Text) : Except Fault Program × Decipherer :=
  match d.cache.get? version with
  | some p => (.ok p, d)
  | none =>
    let (answer, cache) := d.cache.getOrInsert version (d.parser script)
    (answer, { d with cache })

def programLog (d : Decipherer) (version : Text) (work : List Record) : List Record :=
  if (d.cache.get? version).isSome then
    [⟨.debug, "Player source cache hit for ".toList ++ version⟩]
  else ⟨.debug, "Player source cache miss for ".toList ++ version⟩ :: work

def decipher (d : Decipherer) (version script signature : Text) : Except Fault Text × Decipherer :=
  let (answer, d) := d.program version script
  (answer >>= fun p => p.apply signature, d)

def invalidate (d : Decipherer) (version : Text) : Decipherer :=
  { d with cache := d.cache.erase version }

def clear (d : Decipherer) : Decipherer := { d with cache := d.cache.clear }

inductive Step
  | program (version script : Text)
  | decipher (version script signature : Text)
  | invalidate (version : Text)
  | clear
  | count

inductive Answer
  | program (result : Except Fault Program)
  | deciphered (result : Except Fault Text)
  | done
  | count (entries : Nat)

def step (d : Decipherer) : Step → Answer × Decipherer
  | .program version script =>
    let (answer, d) := d.program version script
    (.program answer, d)
  | .decipher version script signature =>
    let (answer, d) := d.decipher version script signature
    (.deciphered answer, d)
  | .invalidate version => (.done, d.invalidate version)
  | .clear => (.done, d.clear)
  | .count => (.count d.cache.size, d)

def run (d : Decipherer) : List Step → List Answer
  | [] => []
  | s :: ss =>
    let (answer, d) := d.step s
    answer :: d.run ss

end Decipherer
end Descramble
