import Peg.Expression.Compile
import Peg.Grammar.Inspection
import Peg.Matching.Repetitions
import Peg.Matching.Scan
import Peg.Proofs.Evaluation
import Peg.Proofs.Rollback
import Peg.Proofs.Adequacy
import Peg.Proofs.Derivation
import Peg.Proofs.DerivationRun
import Peg.Proofs.UnlimitedRun
import Peg.Proofs.Emission
import Peg.Proofs.Meaning
import Peg.Proofs.ParsedTree
import Peg.Proofs.Reading
import Peg.Proofs.Viability
import Peg.Proofs.Diagnosis
import Peg.Proofs.RoundTrip
import Peg.Proofs.Acceptance
import Peg.Proofs.Scanner
import Peg.Proofs.LimitCut
import Peg.Proofs.DepthBound
import Peg.Proofs.Halting
import Peg.Proofs.TraceNesting
import Peg.Proofs.LatestFailure
import Peg.Proofs.LatestCapture
import Peg.Proofs.Search
import Peg.Proofs.SpanRounds
import Peg.Proofs.Sealing
import Peg.Proofs.SafeRun
import Peg.Proofs.Extension
import Peg.Proofs.TraceNeutrality
import Peg.Proofs.Compilation
import Peg.Proofs.Relocation
import Peg.Proofs.ErrorPlace
import Peg.Proofs.Displacement
import Peg.Proofs.View
import Peg.Proofs.Bracketing
import Peg.Proofs.SpanLaws
import Peg.Proofs.LinePosition
import Peg.Proofs.Excerpt
import Peg.Proofs.Readability
import Peg.Proofs.TraceLines
import Peg.Proofs.Interleaving
