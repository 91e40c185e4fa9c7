import Notekeeper.Attempt
import Notekeeper.Calendar.Date
import Notekeeper.Calendar.Moment
import Notekeeper.Calendar.Reading
import Notekeeper.Command.Arguments
import Notekeeper.Command.Editing
import Notekeeper.Command.Help
import Notekeeper.Command.Run
import Notekeeper.Command.Session
import Notekeeper.Command.Usage
import Notekeeper.Disk.Basic
import Notekeeper.Disk.Path
import Notekeeper.Display
import Notekeeper.DueDate
import Notekeeper.Fault
import Notekeeper.Highlight
import Notekeeper.Json
import Notekeeper.Main
import Notekeeper.Note.Basic
import Notekeeper.Note.Bullets
import Notekeeper.Note.Input
import Notekeeper.Note.Record
import Notekeeper.Notebook.Basic
import Notekeeper.Notebook.Exchange
import Notekeeper.Notebook.Layout
import Notekeeper.Number.Decimal
import Notekeeper.Package.Archive
import Notekeeper.Package.Archive.Directory
import Notekeeper.Package.Archive.Octets
import Notekeeper.Package.Archive.Trailer
import Notekeeper.Package.Bits
import Notekeeper.Package.BlockSort
import Notekeeper.Package.Checksum
import Notekeeper.Package.Disturbance
import Notekeeper.Package.Framed
import Notekeeper.Package.Framed.Fingerprint
import Notekeeper.Package.Framed.Literals
import Notekeeper.Package.Framed.Sequences
import Notekeeper.Package.Framed.StateCode
import Notekeeper.Package.Huffman
import Notekeeper.Package.Inflate
import Notekeeper.Profile
import Notekeeper.Proofs.Attempt
import Notekeeper.Proofs.Calendar.Reading
import Notekeeper.Proofs.Calendar.Writing
import Notekeeper.Proofs.Disk.Frame
import Notekeeper.Proofs.Disk.Places
import Notekeeper.Proofs.DueDate
import Notekeeper.Proofs.Highlight.Matching
import Notekeeper.Proofs.Highlight.Octets
import Notekeeper.Proofs.Highlight.Spans
import Notekeeper.Proofs.Note.Bullets
import Notekeeper.Proofs.Note.Entered
import Notekeeper.Proofs.Note.FirstLines
import Notekeeper.Proofs.Note.Identity
import Notekeeper.Proofs.Note.Reader
import Notekeeper.Proofs.Note.Record
import Notekeeper.Proofs.Note.Refusal
import Notekeeper.Proofs.Note.Resubmission
import Notekeeper.Proofs.Note.RoundTrip
import Notekeeper.Proofs.Note.Storable
import Notekeeper.Proofs.Notebook.Absorbing
import Notekeeper.Proofs.Notebook.Apart
import Notekeeper.Proofs.Notebook.Backups
import Notekeeper.Proofs.Notebook.Change
import Notekeeper.Proofs.Notebook.Copying
import Notekeeper.Proofs.Notebook.Covering
import Notekeeper.Proofs.Notebook.Discarding
import Notekeeper.Proofs.Notebook.Durability
import Notekeeper.Proofs.Notebook.Entering
import Notekeeper.Proofs.Notebook.Exchange
import Notekeeper.Proofs.Notebook.Files
import Notekeeper.Proofs.Notebook.Following
import Notekeeper.Proofs.Notebook.History
import Notekeeper.Proofs.Notebook.LocalChange
import Notekeeper.Proofs.Notebook.Merging
import Notekeeper.Proofs.Notebook.Naming
import Notekeeper.Proofs.Notebook.Opening
import Notekeeper.Proofs.Notebook.Operation
import Notekeeper.Proofs.Notebook.Rejection
import Notekeeper.Proofs.Notebook.Saving
import Notekeeper.Proofs.Notebook.Several
import Notekeeper.Proofs.Notebook.Stable
import Notekeeper.Proofs.Notebook.Standing
import Notekeeper.Proofs.Notebook.Tidy
import Notekeeper.Proofs.Notebook.Work
import Notekeeper.Proofs.Number.Decimal
import Notekeeper.Proofs.Package.Archive
import Notekeeper.Proofs.Package.Octets
import Notekeeper.Proofs.Query.Building
import Notekeeper.Proofs.Query.Evaluation
import Notekeeper.Proofs.Query.Expression
import Notekeeper.Proofs.Query.Governing
import Notekeeper.Proofs.Query.Narrowing
import Notekeeper.Proofs.Query.Nesting
import Notekeeper.Proofs.Query.Outline
import Notekeeper.Proofs.Query.Scanning
import Notekeeper.Proofs.Query.Shape
import Notekeeper.Proofs.Query.Spelling
import Notekeeper.Proofs.Query.Stretch
import Notekeeper.Proofs.Replica.Basic
import Notekeeper.Proofs.Replica.Convergence
import Notekeeper.Proofs.Replica.Deletion
import Notekeeper.Proofs.Replica.Exchange
import Notekeeper.Proofs.Replica.Holding
import Notekeeper.Proofs.Replica.Rounds
import Notekeeper.Proofs.Replica.Sitting
import Notekeeper.Proofs.Replica.Staleness
import Notekeeper.Proofs.Store.Agreement
import Notekeeper.Proofs.Store.Alike
import Notekeeper.Proofs.Store.Basic
import Notekeeper.Proofs.Store.Change
import Notekeeper.Proofs.Store.Clock
import Notekeeper.Proofs.Store.Contexts
import Notekeeper.Proofs.Store.Covering
import Notekeeper.Proofs.Store.Damage
import Notekeeper.Proofs.Store.Ending
import Notekeeper.Proofs.Store.Handover
import Notekeeper.Proofs.Store.Interruption
import Notekeeper.Proofs.Store.Prefix
import Notekeeper.Proofs.Store.Ranking
import Notekeeper.Proofs.Store.Reading
import Notekeeper.Proofs.Store.Replay
import Notekeeper.Proofs.Store.Room
import Notekeeper.Proofs.Store.Saving
import Notekeeper.Proofs.Store.Stable
import Notekeeper.Proofs.Store.Told
import Notekeeper.Proofs.Store.Upkeep
import Notekeeper.Proofs.Supply
import Notekeeper.Proofs.Sync.Alike
import Notekeeper.Proofs.Sync.Apart
import Notekeeper.Proofs.Sync.Copies
import Notekeeper.Proofs.Sync.Effect
import Notekeeper.Proofs.Sync.Merge
import Notekeeper.Proofs.Sync.Numbering
import Notekeeper.Proofs.Sync.Outcome
import Notekeeper.Proofs.Sync.Passes
import Notekeeper.Proofs.Sync.Repeat
import Notekeeper.Proofs.Template.Report
import Notekeeper.Proofs.Template.RoundTrip
import Notekeeper.Proofs.Text.Blank
import Notekeeper.Proofs.Text.Case
import Notekeeper.Proofs.Text.Lines
import Notekeeper.Proofs.Text.Occurrence
import Notekeeper.Proofs.Text.Pieces
import Notekeeper.Proofs.Toml.Document
import Notekeeper.Proofs.Toml.Quoting
import Notekeeper.Proofs.Toml.Remark
import Notekeeper.Proofs.VirtualFolder
import Notekeeper.Query.Arena
import Notekeeper.Query.Evaluation
import Notekeeper.Query.Token
import Notekeeper.Query.Tree
import Notekeeper.Store.Basic
import Notekeeper.Store.Listing
import Notekeeper.Store.Saving
import Notekeeper.Store.Selection
import Notekeeper.Store.Text
import Notekeeper.Supply
import Notekeeper.Sync.Change
import Notekeeper.Sync.Merge
import Notekeeper.Template
import Notekeeper.Text.Blank
import Notekeeper.Text.Case
import Notekeeper.Text.Lines
import Notekeeper.Text.Property.Alphabetic
import Notekeeper.Text.Property.CaseMap
import Notekeeper.Text.Property.Cased
import Notekeeper.Text.Property.Mark
import Notekeeper.Text.Property.Numeral
import Notekeeper.Text.Property.Recent
import Notekeeper.Text.Property.Visible
import Notekeeper.Text.Quoted
import Notekeeper.Text.Ranges
import Notekeeper.Text.Utf8
import Notekeeper.Text.Word
import Notekeeper.Toml.Document
import Notekeeper.Toml.Quoting
import Notekeeper.Toml.Scalar
import Notekeeper.Toml.Value
import Notekeeper.VirtualFolder
