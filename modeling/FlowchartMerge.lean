import FlowchartMerge.Command.Arguments
import FlowchartMerge.Command.Basic
import FlowchartMerge.Command.Flag
import FlowchartMerge.Command.Log
import FlowchartMerge.Command.Plan
import FlowchartMerge.Command.Run
import FlowchartMerge.Command.World
import FlowchartMerge.Comparison.Basic
import FlowchartMerge.Comparison.Merge
import FlowchartMerge.Comparison.Sequence
import FlowchartMerge.Comparison.Summary
import FlowchartMerge.Diagram.Basic
import FlowchartMerge.Diagram.Connector
import FlowchartMerge.Diagram.Line
import FlowchartMerge.Document.Block
import FlowchartMerge.Document.Fence
import FlowchartMerge.Document.Merge
import FlowchartMerge.Document.Selection
import FlowchartMerge.Main
import FlowchartMerge.Number.Binary64
import FlowchartMerge.Number.Numeral
import FlowchartMerge.Page
import FlowchartMerge.Path
import FlowchartMerge.Proofs.Command.Input
import FlowchartMerge.Proofs.Command.Listing
import FlowchartMerge.Proofs.Command.Outcome
import FlowchartMerge.Proofs.Command.Output
import FlowchartMerge.Proofs.Comparison.Changes
import FlowchartMerge.Proofs.Comparison.Classification
import FlowchartMerge.Proofs.Comparison.Mirror
import FlowchartMerge.Proofs.Comparison.Written
import FlowchartMerge.Proofs.Diagram.Blanks
import FlowchartMerge.Proofs.Diagram.Contribution
import FlowchartMerge.Proofs.Diagram.Cutting
import FlowchartMerge.Proofs.Diagram.Joining
import FlowchartMerge.Proofs.Diagram.Kept
import FlowchartMerge.Proofs.Diagram.Layout
import FlowchartMerge.Proofs.Diagram.Reading
import FlowchartMerge.Proofs.Diagram.Sound
import FlowchartMerge.Proofs.Diagram.Specification
import FlowchartMerge.Proofs.Diagram.Word
import FlowchartMerge.Proofs.Document.Choice
import FlowchartMerge.Proofs.Document.Embedding
import FlowchartMerge.Proofs.Document.Extraction
import FlowchartMerge.Proofs.Document.Fence
import FlowchartMerge.Proofs.Document.Interleaving
import FlowchartMerge.Proofs.Document.Returns
import FlowchartMerge.Proofs.Document.Selection
import FlowchartMerge.Proofs.Fallible
import FlowchartMerge.Proofs.Merge.Gathering
import FlowchartMerge.Proofs.Merge.Header
import FlowchartMerge.Proofs.Merge.Independence
import FlowchartMerge.Proofs.Merge.Reading
import FlowchartMerge.Proofs.Merge.RoundTrip
import FlowchartMerge.Proofs.Merge.Sections
import FlowchartMerge.Proofs.Merge.Settling
import FlowchartMerge.Proofs.Merge.Style
import FlowchartMerge.Proofs.Merge.Survival
import FlowchartMerge.Proofs.Merge.Thinning
import FlowchartMerge.Proofs.Number.Numeral
import FlowchartMerge.Proofs.Page
import FlowchartMerge.Proofs.Path
import FlowchartMerge.Proofs.Settings.Decoding
import FlowchartMerge.Proofs.Settings.Draft
import FlowchartMerge.Proofs.Settings.Layers
import FlowchartMerge.Proofs.Settings.Validation
import FlowchartMerge.Proofs.Storage.History
import FlowchartMerge.Proofs.Storage.Writing
import FlowchartMerge.Proofs.Table
import FlowchartMerge.Proofs.Text.Encoding
import FlowchartMerge.Proofs.Text.Lines
import FlowchartMerge.Proofs.Text.Pattern
import FlowchartMerge.Proofs.Text.Returns
import FlowchartMerge.Proofs.Text.Strip
import FlowchartMerge.Proofs.Toml.Distinct
import FlowchartMerge.Proofs.Toml.Spelling
import FlowchartMerge.Proofs.Toml.Writing
import FlowchartMerge.Settings.Basic
import FlowchartMerge.Settings.Document
import FlowchartMerge.Storage.FileError
import FlowchartMerge.Storage.Folder
import FlowchartMerge.Storage.History
import FlowchartMerge.Storage.System
import FlowchartMerge.Table
import FlowchartMerge.Text.Basic
import FlowchartMerge.Text.Blank
import FlowchartMerge.Text.Lossy
import FlowchartMerge.Text.Quoted
import FlowchartMerge.Text.Unshown
import FlowchartMerge.Toml.Document
import FlowchartMerge.Toml.Lexeme
import FlowchartMerge.Toml.Scalar
import FlowchartMerge.Toml.Value

/-!
# Merged flowcharts

Two versions of a flowchart are merged into one diagram that shows what was added, removed
and kept. The program reads diagram texts, documents with fenced diagrams, settings and
earlier revisions, compares the diagrams, and writes the merged one as a text or as a web
page. What is proved of it stands under `Proofs`, in the order of the program's own modules.
-/
