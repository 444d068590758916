import Descramble.Main
import Descramble.Page.ScriptAddress
import Descramble.Proofs.CommandLine.Choices
import Descramble.Proofs.CommandLine.Presentation
import Descramble.Proofs.CommandLine.Report
import Descramble.Proofs.Decipherer.Failure
import Descramble.Proofs.Decipherer.Lifetime
import Descramble.Proofs.Decipherer.Transparency
import Descramble.Proofs.Page.Attribute
import Descramble.Proofs.Page.Spelling
import Descramble.Proofs.Program.Mirror
import Descramble.Proofs.Program.Positions
import Descramble.Proofs.Program.Reading
import Descramble.Proofs.Program.Text
import Descramble.Proofs.Program.Window
import Descramble.Proofs.Script.Agreement
import Descramble.Proofs.Script.Argument
import Descramble.Proofs.Script.Called
import Descramble.Proofs.Script.Continuation
import Descramble.Proofs.Script.Header
import Descramble.Proofs.Script.Idle
import Descramble.Proofs.Script.Nesting
import Descramble.Proofs.Script.Operand
import Descramble.Proofs.Script.Overwriting
import Descramble.Proofs.Script.Recovery
import Descramble.Proofs.Script.Resolution
import Descramble.Proofs.Script.RuleTable
import Descramble.Proofs.Script.Selection
import Descramble.Proofs.Script.Shortcuts
import Descramble.Proofs.Script.Splitting
import Descramble.Proofs.Script.Tail
import Descramble.Proofs.Substitution
