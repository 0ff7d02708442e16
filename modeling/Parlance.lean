import Parlance.Main
import Parlance.Proofs.Arena.Sound
import Parlance.Proofs.Arena.Leaving
import Parlance.Proofs.Arena.Accounted
import Parlance.Proofs.Arena.Reachable
import Parlance.Proofs.Arena.Covering
import Parlance.Proofs.Running.Comparison
import Parlance.Proofs.Running.Agreement
import Parlance.Proofs.Running.Bond
import Parlance.Proofs.Running.Dispatch
import Parlance.Proofs.Running.Frame
import Parlance.Proofs.Running.Intact
import Parlance.Proofs.Running.Genuine
import Parlance.Proofs.Running.Completion
import Parlance.Proofs.Running.Reclaiming
import Parlance.Proofs.Running.Restriction
import Parlance.Proofs.Session.Reclamation
import Parlance.Proofs.Session.History
import Parlance.Proofs.Session.Balance
import Parlance.Proofs.Session.Collection
import Parlance.Proofs.Session.Restriction
import Parlance.Proofs.Running.Cutoff
import Parlance.Proofs.Running.Charge
import Parlance.Proofs.Running.Ending
import Parlance.Proofs.Session.Budget
import Parlance.Proofs.Reading.Agree
import Parlance.Proofs.Reading.Expression
import Parlance.Proofs.Reading.Statement
import Parlance.Proofs.Reading.Program
import Parlance.Proofs.Session.Lenient
import Parlance.Proofs.Spelling.Program
import Parlance.Proofs.Printing.Item
import Parlance.Proofs.Reading.Operand
import Parlance.Proofs.Reading.Wrapping
import Parlance.Proofs.Progress.Program
import Parlance.Proofs.Printing.Block
import Parlance.Proofs.Printing.Conditional
import Parlance.Proofs.Printing.RoundTrip
import Parlance.Proofs.Printing.Phrase
import Parlance.Proofs.Printing.WordRoundTrip
import Parlance.Proofs.Token.Lexeme
import Parlance.Proofs.Token.Tiling
import Parlance.Proofs.Relabelling.Arena
import Parlance.Proofs.Running.Blind
import Parlance.Proofs.Running.Mirror
import Parlance.Proofs.Running.Numbering
import Parlance.Proofs.Running.Resumption
import Parlance.Proofs.Session.Composition
import Parlance.Proofs.Session.Marking
import Parlance.Proofs.Session.Origin
import Parlance.Proofs.Arena.Lifecycle
import Parlance.Proofs.Printing.Precedence
import Parlance.Proofs.Fork.Separation
import Parlance.Proofs.Session.Registration
import Parlance.Proofs.Arena.Garbage
import Parlance.Proofs.Reading.Nesting
import Parlance.Proofs.Reading.Conservation
import Parlance.Proofs.Session.Locality
import Parlance.Proofs.Drawing.Calls
import Parlance.Proofs.Session.Recall
import Parlance.Proofs.Session.ShortCircuit
import Parlance.Proofs.Token.Writing
import Parlance.Proofs.Running.Traversal
import Parlance.Proofs.Running.Visiting
import Parlance.Proofs.Binary64.Range
import Parlance.Proofs.Value.Host
import Parlance.Proofs.Value.NumberText
import Parlance.Proofs.Value.Reordering
import Parlance.Proofs.Module.Answer
import Parlance.Proofs.Running.Containment
import Parlance.Proofs.Session.Containment
import Parlance.Proofs.Running.Quoting
import Parlance.Proofs.Session.Snippet
import Parlance.Proofs.Text.Rows
import Parlance.Proofs.Arena.Coherence
import Parlance.Proofs.Reading.Enclosure
import Parlance.Proofs.Session.Survival
import Parlance.Proofs.Command.Conversation
