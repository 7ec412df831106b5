import Bashling.Main
import Bashling.Number.Scientific
import Bashling.Source.Layers
import Bashling.Subject
import Bashling.Proofs.Ahead
import Bashling.Proofs.Ensures
import Bashling.Proofs.Expression
import Bashling.Proofs.Grammar
import Bashling.Proofs.Scan
import Bashling.Proofs.Recognition
import Bashling.Proofs.Statement
import Bashling.Proofs.Lexemes
import Bashling.Proofs.Layout
import Bashling.Proofs.Totality
import Bashling.Proofs.Consumption
import Bashling.Proofs.Completeness
import Bashling.Proofs.Locality
import Bashling.Proofs.Blocks
import Bashling.Proofs.Grouping
import Bashling.Proofs.Streaming
import Bashling.Proofs.TreeTokens
import Bashling.Proofs.Parentheses
import Bashling.Proofs.BashText
import Bashling.Proofs.Rendering
import Bashling.Proofs.Placement
import Bashling.Proofs.Readability
import Bashling.Proofs.EarliestRefusal
import Bashling.Proofs.PlainCursor
import Bashling.Proofs.Commands
import Bashling.Proofs.Positional
import Bashling.Proofs.Precedence
import Bashling.Proofs.Functions
import Bashling.Proofs.Progress
import Bashling.Proofs.Dialog
import Bashling.Proofs.Talk
import Bashling.Proofs.Pulling
import Bashling.Proofs.Rounding
import Bashling.Proofs.WholeNumbers
import Bashling.Proofs.Unsupported
import Bashling.Proofs.Columns
import Bashling.Proofs.LineEnds
import Bashling.Proofs.Growth
import Bashling.Proofs.Spellings
