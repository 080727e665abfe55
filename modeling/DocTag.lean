import DocTag.Main
import DocTag.Session.Run
import DocTag.Proofs.Span.Reading
import DocTag.Proofs.Text.Splitting
import DocTag.Proofs.Text.Trimming
import DocTag.Proofs.Comment.FirstLine
import DocTag.Proofs.Comment.Lines
import DocTag.Proofs.Span.Tiling
import DocTag.Proofs.Comment.Block
import DocTag.Proofs.CommandLine.Strictness
import DocTag.Proofs.Session.Scoping
import DocTag.Proofs.Json.Reader
import DocTag.Proofs.Json.RoundTrip
import DocTag.Proofs.Part.Construction
import DocTag.Proofs.CommandLine.Description
import DocTag.Proofs.Session.History
import DocTag.Proofs.CommandLine.Shapes
import DocTag.Proofs.Session.Parts
import DocTag.Proofs.CommandLine.Unchecked
import DocTag.Proofs.CommandLine.Verbosity
import DocTag.Proofs.Span.Places
import DocTag.Proofs.Comment.Conservation
import DocTag.Proofs.Log.Requests
import DocTag.Proofs.Settings.Resolution
import DocTag.Proofs.Comment.Agreement
import DocTag.Proofs.Comment.LineEnds
import DocTag.Proofs.Comment.Underlining
import DocTag.Proofs.Comment.Reparsing
import DocTag.Proofs.Comment.Padding
import DocTag.Proofs.Comment.Joining
import DocTag.Proofs.Part.Formats
import DocTag.Proofs.CommandLine.Placement
import DocTag.Proofs.CommandLine.Rendering
import DocTag.Proofs.CommandLine.Offset
import DocTag.Proofs.CommandLine.Reporting
