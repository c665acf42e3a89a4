import SplitTunnel.Arguments.Command
import SplitTunnel.Arguments.Words
import SplitTunnel.Category
import SplitTunnel.Codec
import SplitTunnel.Decimal.Binary64
import SplitTunnel.Decimal.Layout
import SplitTunnel.Decimal.Shortest
import SplitTunnel.Document.Basic
import SplitTunnel.Document.Json
import SplitTunnel.Execution
import SplitTunnel.FileTree.Access
import SplitTunnel.FileTree.Activity
import SplitTunnel.FileTree.Basic
import SplitTunnel.FileTree.Step
import SplitTunnel.Inventory
import SplitTunnel.Json.Fault
import SplitTunnel.Json.Number
import SplitTunnel.Json.Parsed
import SplitTunnel.Json.Quoted
import SplitTunnel.Json.Token
import SplitTunnel.Json.Typed
import SplitTunnel.Json.Value
import SplitTunnel.Json.Writer
import SplitTunnel.Lock
import SplitTunnel.Main
import SplitTunnel.Manager
import SplitTunnel.Named
import SplitTunnel.Path
import SplitTunnel.Policy
import SplitTunnel.Program
import SplitTunnel.Proofs.Decimal.Rounding
import SplitTunnel.Proofs.Document.Canonical
import SplitTunnel.Proofs.Document.Damage
import SplitTunnel.Proofs.Document.Grammar
import SplitTunnel.Proofs.Document.Meaning
import SplitTunnel.Proofs.Document.Parsed
import SplitTunnel.Proofs.Document.RoundTrip
import SplitTunnel.Proofs.FileTree.Additions
import SplitTunnel.Proofs.FileTree.Canonical
import SplitTunnel.Proofs.FileTree.Directories
import SplitTunnel.Proofs.FileTree.Frame
import SplitTunnel.Proofs.FileTree.Likeness
import SplitTunnel.Proofs.FileTree.Lookup
import SplitTunnel.Proofs.FileTree.Operations
import SplitTunnel.Proofs.FileTree.Passage
import SplitTunnel.Proofs.FileTree.Remaking
import SplitTunnel.Proofs.FileTree.Resolution
import SplitTunnel.Proofs.FileTree.SharedDirectory
import SplitTunnel.Proofs.FileTree.Steps
import SplitTunnel.Proofs.FileTree.Stops
import SplitTunnel.Proofs.Inventory.Entries
import SplitTunnel.Proofs.Json.Ending
import SplitTunnel.Proofs.Json.Gathering
import SplitTunnel.Proofs.Json.Grammar
import SplitTunnel.Proofs.Json.Layout
import SplitTunnel.Proofs.Json.Pieces
import SplitTunnel.Proofs.Json.RoundTrip
import SplitTunnel.Proofs.Json.Scanning
import SplitTunnel.Proofs.Json.Spelling
import SplitTunnel.Proofs.Json.Strings
import SplitTunnel.Proofs.Manager.Counting
import SplitTunnel.Proofs.Manager.Growth
import SplitTunnel.Proofs.Manager.History
import SplitTunnel.Proofs.Manager.Managed
import SplitTunnel.Proofs.Manager.Matching
import SplitTunnel.Proofs.Manager.Partition
import SplitTunnel.Proofs.Manager.Reconfiguration
import SplitTunnel.Proofs.Manager.Tables
import SplitTunnel.Proofs.Path.Children
import SplitTunnel.Proofs.Path.Spelling
import SplitTunnel.Proofs.Program.Bypass
import SplitTunnel.Proofs.Program.FailedImport
import SplitTunnel.Proofs.Program.Reading
import SplitTunnel.Proofs.Program.Refinement
import SplitTunnel.Proofs.Program.Showing
import SplitTunnel.Proofs.Rule.Canonical
import SplitTunnel.Proofs.Rule.Forms
import SplitTunnel.Proofs.Rule.Grammar
import SplitTunnel.Proofs.Rule.Meaning
import SplitTunnel.Proofs.Settings.Names
import SplitTunnel.Proofs.Store.Commitment
import SplitTunnel.Proofs.Store.Effect
import SplitTunnel.Proofs.Store.History
import SplitTunnel.Proofs.Store.Independence
import SplitTunnel.Proofs.Store.Interruption
import SplitTunnel.Proofs.Store.Locking
import SplitTunnel.Proofs.Store.Reading
import SplitTunnel.Proofs.Store.Recovery
import SplitTunnel.Proofs.Store.Registry
import SplitTunnel.Proofs.Store.Reopening
import SplitTunnel.Proofs.Store.Saving
import SplitTunnel.Proofs.Store.Siblings
import SplitTunnel.Proofs.Text.ByteOrder
import SplitTunnel.Proofs.Text.Numerals
import SplitTunnel.Proofs.Text.Trimming
import SplitTunnel.Rule.Basic
import SplitTunnel.Rule.Parser
import SplitTunnel.Settings.Basic
import SplitTunnel.Settings.Load
import SplitTunnel.Settings.Toml
import SplitTunnel.SortedMap.Basic
import SplitTunnel.SortedMap.Lemmas
import SplitTunnel.Store
import SplitTunnel.Table
import SplitTunnel.Text.Blank
import SplitTunnel.Text.Column
import SplitTunnel.Text.Numeral
import SplitTunnel.Text.Utf8
import SplitTunnel.Text.Visible
import SplitTunnel.Toml.Parser
import SplitTunnel.Toml.Scalar
import SplitTunnel.Toml.Table
import SplitTunnel.Toml.Text
import SplitTunnel.Version
