import Descent.Main
import Descent.Session
import Descent.Trackers
import Descent.Proofs.Parser.Building
import Descent.Proofs.Meaning.Build
import Descent.Proofs.Parser.Ownership
import Descent.Proofs.Meaning.Adequacy
import Descent.Proofs.Meaning.Collect
import Descent.Proofs.Meaning.Session
import Descent.Proofs.Meaning.Contract
import Descent.Proofs.Meaning.Similar
import Descent.Proofs.Meaning.Reading
import Descent.Proofs.Calc.Number
import Descent.Proofs.Meaning.Matches
import Descent.Proofs.Calc.Token
import Descent.Proofs.Calc.Reads
import Descent.Proofs.Calc.Language
import Descent.Proofs.Meaning.Unique
import Descent.Proofs.Meaning.Calls
import Descent.Proofs.Meaning.Follow
import Descent.Proofs.Meaning.Suffix
import Descent.Proofs.Meaning.Spelling
import Descent.Proofs.Meaning.Knot
import Descent.Proofs.Meaning.LeftRecursion
import Descent.Proofs.Meaning.Termination
import Descent.Proofs.Calc.Termination
import Descent.Proofs.Meaning.Farthest
import Descent.Proofs.Meaning.Clones
import Descent.Proofs.Meaning.Unlabelled
import Descent.Proofs.Trace.Basic
import Descent.Proofs.Trace.Induction
import Descent.Proofs.Trace.Errors
import Descent.Proofs.Trace.Diagnostics
import Descent.Proofs.Parser.Standing
import Descent.Proofs.Trace.Uses
import Descent.Proofs.Trace.Workshop
import Descent.Proofs.Trace.Course
import Descent.Proofs.Trace.Factories
import Descent.Proofs.Meaning.Names
import Descent.Proofs.Trace.Staying
import Descent.Proofs.Trace.Handles
import Descent.Proofs.Calc.Exact
import Descent.Proofs.Trace.Repetition
import Descent.Proofs.Text.DigitRuns
import Descent.Proofs.Meaning.Misses
import Descent.Proofs.Calc.Beginning
import Descent.Proofs.Calc.Scan
import Descent.Proofs.Calc.Impasse
import Descent.Proofs.Calc.Offending
import Descent.Proofs.Calc.Longest
import Descent.Proofs.Meaning.Nullable
import Descent.Proofs.Trace.Equations
import Descent.Proofs.Calc.Productive
import Descent.Parser.Tuple
import Descent.Proofs.Meaning.Factoring
import Descent.Proofs.Trace.Flattening
import Descent.Proofs.Trace.Stalling
import Descent.Proofs.Meaning.Raises
import Descent.Proofs.Meaning.Located
import Descent.Proofs.Calc.Blanks
import Descent.Proofs.Calc.Printed
import Descent.Proofs.Meaning.Chains
import Descent.Proofs.Settings.Layers
import Descent.Proofs.Trace.Misplaced
import Descent.Proofs.Pattern.Preferred
