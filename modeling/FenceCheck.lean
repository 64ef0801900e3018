import FenceCheck.Batch
import FenceCheck.Cli
import FenceCheck.Config.Schema
import FenceCheck.Discovery
import FenceCheck.Host
import FenceCheck.Main
import FenceCheck.Output
import FenceCheck.Proofs.Document.Position
import FenceCheck.Proofs.Fragment.Cut
import FenceCheck.Proofs.Fragment.Staged
import FenceCheck.Proofs.Fragment.Anchoring
import FenceCheck.Proofs.Report.Role
import FenceCheck.Proofs.Report.Segment
import FenceCheck.Proofs.Report.Grammar
import FenceCheck.Proofs.Report.Written
import FenceCheck.Proofs.Report.Transcript
import FenceCheck.Proofs.Batch.ExitCode
import FenceCheck.Proofs.Staging.Removal
import FenceCheck.Proofs.Board.Entries
import FenceCheck.Proofs.Pass.Outcome
import FenceCheck.Proofs.Pass.Cleanup
import FenceCheck.Proofs.Batch.Tally
import FenceCheck.Proofs.Document.Address
import FenceCheck.Proofs.Pass.Addressed
import FenceCheck.Proofs.Board.History
import FenceCheck.Proofs.Fragment.Tag
import FenceCheck.Proofs.Fragment.Scan
import FenceCheck.Proofs.Fragment.Joining
import FenceCheck.Proofs.Text.CarriageReturn
import FenceCheck.Proofs.Fragment.LineEnding
import FenceCheck.Proofs.Report.LineEnding
import FenceCheck.Proofs.Report.FatalLine
import FenceCheck.Proofs.Json.Findings
import FenceCheck.Proofs.Toml.Quotation
import FenceCheck.Proofs.Toml.Sheet
import FenceCheck.Proofs.Config.RoundTrip
import FenceCheck.Proofs.Text.Utf8
import FenceCheck.Proofs.Fragment.Marker
import FenceCheck.Proofs.Fragment.Language
import FenceCheck.Proofs.Document.LineRange
import FenceCheck.Proofs.Document.Inverse
import FenceCheck.Proofs.Document.LineLookup
import FenceCheck.Proofs.Staging.Guards
import FenceCheck.Proofs.Config.Overlay
import FenceCheck.Proofs.Config.Discovery
import FenceCheck.Proofs.Compiler.RootVariable
import FenceCheck.Proofs.Output.Annotation
import FenceCheck.Proofs.Output.Listing
import FenceCheck.Proofs.Discovery.Documents
