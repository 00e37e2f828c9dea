import Remap.CommandLine.Options
import Remap.Main
import Remap.Request.Cache
import Remap.Request.Inspect
import Remap.Proofs.Expression.RoundTrip
import Remap.Proofs.Json.WellFormed
import Remap.Proofs.Request.Grammar
import Remap.Proofs.Request.Place
import Remap.Proofs.Request.Translation
import Remap.Proofs.Outcome
import Remap.Proofs.Request.Denotation
import Remap.Proofs.Request.Execution
import Remap.Proofs.Request.Evaluation
import Remap.Proofs.Request.Compilation
import Remap.Proofs.Request.ReadBack
import Remap.Proofs.Uri.Completeness
import Remap.Proofs.Request.Caching
import Remap.Proofs.Json.SameContent
import Remap.Proofs.Json.Alike
import Remap.Proofs.Json.Nodes
import Remap.Proofs.Uri.PlainText
import Remap.Proofs.Request.Verbatim
import Remap.Proofs.Uri.NormalForm
import Remap.Proofs.Request.Writing
import Remap.Proofs.Request.Order
import Remap.Proofs.Request.Isolation
import Remap.Proofs.Registry.Loading
import Remap.Proofs.Request.Coherence
import Remap.Proofs.Request.Dropping
import Remap.Proofs.Request.Frame
import Remap.Proofs.Request.Commutation
import Remap.Proofs.Request.Enumeration
import Remap.Proofs.Uri.Binding
import Remap.Proofs.Uri.Containment
import Remap.Proofs.Request.Rewriting
import Remap.Proofs.Request.Recognition
import Remap.Proofs.Expression.Naming
import Remap.Proofs.Expression.Faults
import Remap.Proofs.Expression.Scanning
import Remap.Proofs.Request.Segments
import Remap.Proofs.Text.Position
import Remap.Proofs.Text.Scanner
import Remap.Proofs.Uri.Faults
import Remap.Proofs.Uri.Scanning
import Remap.Proofs.Readers
