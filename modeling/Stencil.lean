import Stencil.Files.Tree
import Stencil.Main
import Stencil.Value.Scalar
import Stencil.Proofs.Token.Spelling
import Stencil.Proofs.Token.Writing
import Stencil.Proofs.Expr.Written
import Stencil.Proofs.Expr.Reading
import Stencil.Proofs.Expr.RoundTrip
import Stencil.Proofs.Expr.Height
import Stencil.Proofs.Outline.Grammar
import Stencil.Proofs.Outline.Derivation
import Stencil.Proofs.Document.Written
import Stencil.Proofs.Document.Cutting
import Stencil.Proofs.Document.Tags
import Stencil.Proofs.Document.RoundTrip
import Stencil.Proofs.Evaluation.FreeNames
import Stencil.Proofs.Generation.Session
import Stencil.Proofs.Generation.History
import Stencil.Proofs.Evaluation.Depth
import Stencil.Proofs.Files.Spelling
import Stencil.Proofs.Generation.Transparency
import Stencil.Proofs.Script.Parsing
import Stencil.Proofs.Script.Calls
import Stencil.Proofs.Generation.Driving
import Stencil.Proofs.Document.Chunks
import Stencil.Proofs.Generation.Endings
import Stencil.Proofs.Files.Growth
import Stencil.Proofs.Generation.Output
import Stencil.Proofs.Files.Copying
import Stencil.Proofs.Generation.Copying
import Stencil.Proofs.Token.Reading
import Stencil.Proofs.Token.Places
import Stencil.Proofs.Token.Agreement
import Stencil.Proofs.Expr.Locality
import Stencil.Proofs.Document.Sections
import Stencil.Proofs.Outline.Progress
import Stencil.Proofs.Document.Quotes
import Stencil.Proofs.Document.ErrorPositions
import Stencil.Proofs.Document.Extension
import Stencil.Proofs.Document.Completion
import Stencil.Proofs.Document.Joining
import Stencil.Proofs.Evaluation.Guard
import Stencil.Proofs.Value.Json
import Stencil.Proofs.Value.Keys
import Stencil.Proofs.Generation.Passing
import Stencil.Proofs.Value.Arithmetic
import Stencil.Proofs.Value.Comparison
import Stencil.Proofs.Token.Printing
import Stencil.Proofs.Document.Respelling
import Stencil.Proofs.Evaluation.Renaming
import Stencil.Proofs.Value.Compact
import Stencil.Proofs.Moment.TimeSpan
import Stencil.Proofs.Document.WellFormed
import Stencil.Proofs.Evaluation.Scopes
import Stencil.Proofs.Evaluation.Iteration
import Stencil.Proofs.Token.Scanning
import Stencil.Proofs.Document.Delimited
import Stencil.Proofs.Document.Marking
import Stencil.Proofs.Document.Continuation
import Stencil.Proofs.Evaluation.Slicing
