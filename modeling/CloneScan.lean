import CloneScan.Main
import CloneScan.Regex.Meaning
import CloneScan.Proofs.Event.Brackets
import CloneScan.Proofs.Tree.Pass
import CloneScan.Proofs.Collector.Run
import CloneScan.Proofs.Tree.Sites
import CloneScan.Proofs.Collector.Harvest
import CloneScan.Proofs.Text.Offsets
import CloneScan.Proofs.File.TokenSpan
import CloneScan.Proofs.Tree.Placement
import CloneScan.Proofs.Tree.Boundaries
import CloneScan.Proofs.Collector.Accuracy
import CloneScan.Proofs.Collector.Calls
import CloneScan.Proofs.Collector.Outcome
import CloneScan.Proofs.Text.Places
import CloneScan.Proofs.Tree.Frontier
import CloneScan.Proofs.Collector.SourceOrder
import CloneScan.Proofs.Collector.Losses
import CloneScan.Proofs.Tree.Comments
import CloneScan.Proofs.Path.Spellings
import CloneScan.Proofs.File.SamePath
import CloneScan.Proofs.Comment.Findings
import CloneScan.Proofs.Scan.Files
import CloneScan.Proofs.Scan.Outcome
import CloneScan.Proofs.Regex.Laps
import CloneScan.Proofs.Regex.Sweep
import CloneScan.Proofs.Regex.Closing
import CloneScan.Proofs.Regex.Escapes
import CloneScan.Proofs.Regex.Sets
import CloneScan.Proofs.Regex.Pieces
import CloneScan.Proofs.Regex.Bounds
import CloneScan.Proofs.Regex.Wrapped
import CloneScan.Proofs.Comment.Matching
import CloneScan.Proofs.Comment.Acceptance
import CloneScan.Proofs.Collector.ValidSpans
import CloneScan.Proofs.Scan.Steady
import CloneScan.Proofs.Scan.Independence
import CloneScan.Proofs.Scan.Failures
import CloneScan.Proofs.Json.Spelling
import CloneScan.Proofs.Json.Reading
import CloneScan.Proofs.Json.Codecs
import CloneScan.Proofs.Json.Records
import CloneScan.Proofs.Json.ReadBack
import CloneScan.Proofs.Collector.Images
import CloneScan.Proofs.Collector.Policies
import CloneScan.Proofs.File.ExactSpan
import CloneScan.Proofs.Text.Returns
import CloneScan.Proofs.Tree.Relocation
import CloneScan.Proofs.Collector.LineEndings
import CloneScan.Proofs.Visitor.Contract
import CloneScan.Proofs.Path.Pieces
import CloneScan.Proofs.Store.Agreement
import CloneScan.Proofs.Path.Order
import CloneScan.Proofs.File.Directories
import CloneScan.Proofs.File.Relisting
import CloneScan.Proofs.Scan.Collection
import CloneScan.Proofs.Json.Passing
import CloneScan.Proofs.Json.PartialRecords
import CloneScan.Proofs.Settings.Effective
