import Registrar.Main
import Registrar.Proofs.Text.Case
import Registrar.Proofs.Text.Lines
import Registrar.Proofs.Artifact.Splice
import Registrar.Proofs.Artifact.Append
import Registrar.Proofs.FileTree.Leads
import Registrar.Proofs.FileTree.Procedure
import Registrar.Proofs.FileTree.Replace
import Registrar.Proofs.Artifact.Reading
import Registrar.Proofs.Artifact.Writing
import Registrar.Proofs.Syntax.Gathering
import Registrar.Proofs.Decl.Walk
import Registrar.Proofs.Decl.Types
import Registrar.Proofs.Decl.Marker
import Registrar.Proofs.Names
import Registrar.Proofs.Syntax.Reached
import Registrar.Proofs.Scan.Pipeline
import Registrar.Proofs.Source.Unit
import Registrar.Proofs.Operation.Registration
import Registrar.Proofs.Syntax.Header
import Registrar.Proofs.Syntax.Lexing
import Registrar.Proofs.Syntax.Outline
import Registrar.Proofs.Artifact.Tokens
import Registrar.Proofs.Syntax.Listing
import Registrar.Proofs.Source.Discovery
import Registrar.Proofs.Operation.Rerun
import Registrar.Proofs.Operation.Atomic
import Registrar.Proofs.Scan.Incremental
import Registrar.Proofs.FileTree.Visit
import Registrar.Proofs.Source.Selection
import Registrar.Proofs.Operation.Rescan
import Registrar.Proofs.Source.RoundTrip
import Registrar.Proofs.Scan.Schedule
import Registrar.Proofs.Scan.Failure
import Registrar.Proofs.Decl.SimpleName
import Registrar.Proofs.FileTree.Again
import Registrar.Proofs.EntryPoint
import Registrar.Proofs.Operation.Setup
import Registrar.Proofs.Scan.Duplicates
import Registrar.Proofs.Rewriting
import Registrar.Proofs.FileTree.Outcome
import Registrar.Proofs.Keys
import Registrar.Proofs.Artifact.Anchor
import Registrar.Proofs.Json.Reading
import Registrar.Proofs.Json.RoundTrip
import Registrar.Proofs.Report.ListReport
import Registrar.Proofs.Toml.Keys
import Registrar.Proofs.Toml.Order
import Registrar.Proofs.Manifest.Settings
import Registrar.Proofs.Manifest.Order
import Registrar.Proofs.Manifest.Reading
import Registrar.Proofs.Text.Pieces
import Registrar.Proofs.Manifest.Span
