import HeapConsole.Main
import HeapConsole.Memory.Operation
import HeapConsole.Proofs.Evaluation
import HeapConsole.Proofs.InternalFaults
import HeapConsole.Proofs.Allocation
import HeapConsole.Proofs.Grammar.Lexeme
import HeapConsole.Proofs.Grammar.Language
import HeapConsole.Proofs.Grammar.Tokens
import HeapConsole.Proofs.Grammar.Soundness
import HeapConsole.Proofs.Grammar.Completeness
import HeapConsole.Proofs.Footprint
import HeapConsole.Proofs.Transcript
import HeapConsole.Proofs.FileRun
import HeapConsole.Proofs.Reentry
import HeapConsole.Proofs.Coercion
import HeapConsole.Proofs.LastWrite
import HeapConsole.Proofs.Steps
import HeapConsole.Proofs.Bindings
import HeapConsole.Proofs.StaticTypes
import HeapConsole.Proofs.Formulas
import HeapConsole.Proofs.FirstFit
import HeapConsole.Proofs.Locality
import HeapConsole.Proofs.Arguments
import HeapConsole.Proofs.DigitLimit
import HeapConsole.Proofs.Residues
import HeapConsole.Proofs.Parentheses
import HeapConsole.Proofs.Grammar.Layout
import HeapConsole.Proofs.Grammar.Segmentation
import HeapConsole.Proofs.Grammar.Statements
import HeapConsole.Proofs.Grammar.BadTokens
import HeapConsole.Proofs.Grammar.Padding
import HeapConsole.Proofs.Grammar.Columns
import HeapConsole.Proofs.ErrorKinds
import HeapConsole.Proofs.Session
import HeapConsole.Proofs.HeapDump
import HeapConsole.Proofs.TreeDump
