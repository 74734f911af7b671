import ScriptReplay.Command.Invocation
import ScriptReplay.Command.Line
import ScriptReplay.Command.Options
import ScriptReplay.Command.Performance
import ScriptReplay.Config.Basic
import ScriptReplay.Config.Document
import ScriptReplay.Config.Store
import ScriptReplay.Error
import ScriptReplay.Execution
import ScriptReplay.Journal.Basic
import ScriptReplay.Journal.Filter
import ScriptReplay.Journal.Line
import ScriptReplay.Json.Basic
import ScriptReplay.Json.Quoted
import ScriptReplay.Json.Reader
import ScriptReplay.Listing
import ScriptReplay.Main
import ScriptReplay.Proofs.Rehearsal.Atomicity
import ScriptReplay.Proofs.Rehearsal.Exits
import ScriptReplay.Proofs.Replay.FileRuns
import ScriptReplay.Proofs.Splitter.Conservation
import ScriptReplay.Proofs.Splitter.Feeding
import ScriptReplay.Proofs.Splitter.Recognition
import ScriptReplay.Proofs.Splitter.WholeText
import ScriptReplay.Proofs.Text.Lines
import ScriptReplay.Proofs.Text.Pieces
import ScriptReplay.Proofs.Text.Trim
import ScriptReplay.Proofs.Text.Words
import ScriptReplay.Replay
import ScriptReplay.Report.Basic
import ScriptReplay.Report.Document
import ScriptReplay.Report.Instant
import ScriptReplay.Script.Comment
import ScriptReplay.Script.Directive
import ScriptReplay.Script.Preview
import ScriptReplay.Script.Reading
import ScriptReplay.Script.Splitter
import ScriptReplay.Session.Address
import ScriptReplay.Session.Basic
import ScriptReplay.Session.Catalogue
import ScriptReplay.Session.Engine
import ScriptReplay.Session.Database
import ScriptReplay.Session.Image
import ScriptReplay.Session.Log
import ScriptReplay.Session.Opening
import ScriptReplay.Session.Rehearsal
import ScriptReplay.Session.ResultCode
import ScriptReplay.Session.Sql
import ScriptReplay.Session.Stored
import ScriptReplay.Session.Token
import ScriptReplay.Tables
import ScriptReplay.Text.Alphanumeric
import ScriptReplay.Text.Blank
import ScriptReplay.Text.Capital
import ScriptReplay.Text.Caseless
import ScriptReplay.Text.Encoding
import ScriptReplay.Text.Hex
import ScriptReplay.Text.Hidden
import ScriptReplay.Text.Lines
import ScriptReplay.Text.Numeral
import ScriptReplay.Text.Pattern
import ScriptReplay.Text.Pattern.Atom
import ScriptReplay.Text.Pieces
import ScriptReplay.Text.Utf16
import ScriptReplay.Text.Utf8
import ScriptReplay.Text.Visible
import ScriptReplay.Transaction
import ScriptReplay.Tree.Basic
import ScriptReplay.Tree.Change
import ScriptReplay.Tree.Content
import ScriptReplay.Tree.Locate
import ScriptReplay.Tree.Path
import ScriptReplay.Proofs.Splitter.Edges
import ScriptReplay.Proofs.Comment.Nesting
import ScriptReplay.Proofs.Script.Routing
import ScriptReplay.Proofs.Rehearsal.LeftOver
import ScriptReplay.Proofs.Execution.Course
import ScriptReplay.Proofs.Engine.Laws
import ScriptReplay.Proofs.Engine.Database
import ScriptReplay.Proofs.Engine.OpenTransactions
import ScriptReplay.Proofs.Engine.Replays
import ScriptReplay.Proofs.Engine.Ledger
import ScriptReplay.Proofs.Comment.Erasure
import ScriptReplay.Proofs.Comment.NormalForm
import ScriptReplay.Proofs.Script.Rendering
import ScriptReplay.Proofs.Script.Rejoining
import ScriptReplay.Proofs.Script.Residue
import ScriptReplay.Proofs.Tree.LastName
import ScriptReplay.Proofs.Replay.DryRun
import ScriptReplay.Proofs.Execution.Alike
import ScriptReplay.Proofs.Tree.Elsewhere
import ScriptReplay.Proofs.Listing.Others
import ScriptReplay.Proofs.Rehearsal.Isolation
import ScriptReplay.Proofs.Rehearsal.Transcript
import ScriptReplay.Proofs.Report.Tally
import ScriptReplay.Proofs.Command.ExitStatus
import ScriptReplay.Proofs.Json.Atoms
import ScriptReplay.Proofs.Text.Utf8
import ScriptReplay.Proofs.Json.Reading
import ScriptReplay.Proofs.Config.Document
import ScriptReplay.Proofs.Tree.Writing
import ScriptReplay.Proofs.Config.RoundTrip
import ScriptReplay.Proofs.Rehearsal.SingleEnd
import ScriptReplay.Proofs.Script.Scoping
import ScriptReplay.Proofs.Splitter.SameLine
import ScriptReplay.Proofs.Splitter.WellFormed
import ScriptReplay.Proofs.Lookup
import ScriptReplay.Proofs.Script.LineEndings
import ScriptReplay.Proofs.Listing.Extension
import ScriptReplay.Proofs.Tree.WellFormed
import ScriptReplay.Proofs.Listing.Exactness
import ScriptReplay.Proofs.Replay.LeadingDots
import ScriptReplay.Proofs.Json.Spelling
import ScriptReplay.Proofs.Config.Partial
import ScriptReplay.Proofs.Comment.Passes
import ScriptReplay.Proofs.Script.Preview
