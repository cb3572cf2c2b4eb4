import SignalChain.Chain.Assembly
import SignalChain.Chain.BlockId
import SignalChain.Chain.Budget
import SignalChain.Chain.Category
import SignalChain.Chain.DisplayName
import SignalChain.Chain.InstrumentModel
import SignalChain.Chain.Matching
import SignalChain.Chain.Resolution
import SignalChain.Chain.View
import SignalChain.Command.Arguments
import SignalChain.Command.Log
import SignalChain.Command.Report
import SignalChain.Command.Run
import SignalChain.Command.Session
import SignalChain.Decimal.Binary
import SignalChain.Decimal.Layout
import SignalChain.Decimal.Reading
import SignalChain.Decimal.Shortest
import SignalChain.Document.Format
import SignalChain.Document.Integer
import SignalChain.Document.Json.Number
import SignalChain.Document.Json.Reader
import SignalChain.Document.Json.Writer
import SignalChain.Document.Toml.Layout
import SignalChain.Document.Toml.Moment
import SignalChain.Document.Toml.Number
import SignalChain.Document.Toml.Quoted
import SignalChain.Document.Toml.Reader
import SignalChain.Document.Toml.Section
import SignalChain.Document.Toml.Tree
import SignalChain.Document.Toml.Writer
import SignalChain.Document.Value
import SignalChain.Main
import SignalChain.Proofs.Chain.Additivity
import SignalChain.Proofs.Chain.Assembly
import SignalChain.Proofs.Chain.Budget
import SignalChain.Proofs.Chain.Category
import SignalChain.Proofs.Chain.Charges
import SignalChain.Proofs.Chain.Control
import SignalChain.Proofs.Chain.Design
import SignalChain.Proofs.Chain.DisplayName
import SignalChain.Proofs.Chain.HintAgreement
import SignalChain.Proofs.Chain.IdText
import SignalChain.Proofs.Chain.InstrumentModel
import SignalChain.Proofs.Chain.InstrumentStage
import SignalChain.Proofs.Chain.Isolation
import SignalChain.Proofs.Chain.LetterCase
import SignalChain.Proofs.Chain.Level
import SignalChain.Proofs.Chain.Locality
import SignalChain.Proofs.Chain.Matching
import SignalChain.Proofs.Chain.Membership
import SignalChain.Proofs.Chain.Override
import SignalChain.Proofs.Chain.Reload
import SignalChain.Proofs.Chain.Renaming
import SignalChain.Proofs.Chain.Resolution
import SignalChain.Proofs.Chain.Seen
import SignalChain.Proofs.Chain.Spelling
import SignalChain.Proofs.Chain.StoredState
import SignalChain.Proofs.Chain.Switch
import SignalChain.Proofs.Chain.VendorMarks
import SignalChain.Proofs.Chain.View
import SignalChain.Proofs.Command.RefusedSave
import SignalChain.Proofs.Decimal.Packing
import SignalChain.Proofs.Decimal.Range
import SignalChain.Proofs.Document.Json
import SignalChain.Proofs.Document.Json.Numeral
import SignalChain.Proofs.Document.Json.Reread
import SignalChain.Proofs.Document.Payload
import SignalChain.Proofs.Gather
import SignalChain.Proofs.Record.Basic
import SignalChain.Proofs.Record.Field
import SignalChain.Proofs.Record.Lawful
import SignalChain.Proofs.Record.Resaved
import SignalChain.Proofs.Record.RoundTrip
import SignalChain.Proofs.Record.Saving
import SignalChain.Proofs.Rig.Amount
import SignalChain.Proofs.Rig.Attachment
import SignalChain.Proofs.Rig.Basic
import SignalChain.Proofs.Rig.Build
import SignalChain.Proofs.Rig.Catalog
import SignalChain.Proofs.Rig.Change
import SignalChain.Proofs.Rig.Cost
import SignalChain.Proofs.Rig.Loadable
import SignalChain.Proofs.Rig.Resaved
import SignalChain.Proofs.Rig.Slot
import SignalChain.Proofs.Rig.Validation
import SignalChain.Proofs.Storage.Directories
import SignalChain.Proofs.Storage.Path
import SignalChain.Proofs.Table
import SignalChain.Proofs.Text.Blank
import SignalChain.Proofs.Text.ByteOrder
import SignalChain.Proofs.Text.Keyword
import SignalChain.Proofs.Text.Sigma
import SignalChain.Proofs.Text.Words
import SignalChain.Record.Basic
import SignalChain.Record.Block
import SignalChain.Record.Catalog
import SignalChain.Record.Controller
import SignalChain.Record.Design
import SignalChain.Record.File
import SignalChain.Record.Instrument
import SignalChain.Record.Path
import SignalChain.Record.Rig
import SignalChain.Record.Snapshot
import SignalChain.Record.View
import SignalChain.Rig.Basic
import SignalChain.Rig.Block
import SignalChain.Rig.Controller
import SignalChain.Rig.Cost
import SignalChain.Rig.Design
import SignalChain.Rig.Instrument
import SignalChain.Rig.Path
import SignalChain.Rig.Snapshot
import SignalChain.Rig.Validation
import SignalChain.Settings
import SignalChain.Storage.Basic
import SignalChain.Storage.Path
import SignalChain.Storage.Tree
import SignalChain.Table
import SignalChain.Text.Blank
import SignalChain.Text.Case
import SignalChain.Text.CaseTable
import SignalChain.Text.Column
import SignalChain.Text.Hex
import SignalChain.Text.Search
import SignalChain.Text.Unseen
