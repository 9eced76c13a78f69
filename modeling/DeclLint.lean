import DeclLint.Json.Reader
import DeclLint.Json.Writer
import DeclLint.Rules.Preset
import DeclLint.Rules.Probe
import DeclLint.Snapshot.Outline
import DeclLint.Snapshot.Rule
import DeclLint.Snapshot.Settings
import DeclLint.Text.Search
import DeclLint.Proofs.StableSort
import DeclLint.Proofs.Text.Slice
import DeclLint.Proofs.Edit.Splice
import DeclLint.Proofs.Symbol.Reachability
import DeclLint.Proofs.Code.Walk
import DeclLint.Proofs.Engine.Dispatch
import DeclLint.Proofs.Engine.Order
import DeclLint.Proofs.Rules.Signature
import DeclLint.Proofs.Engine.Isolation
import DeclLint.Proofs.Rules.Preconditions
import DeclLint.Proofs.Engine.Report
import DeclLint.Proofs.Rules.Alike
import DeclLint.Proofs.Engine.UnitOrder
import DeclLint.Proofs.Engine.Suspension
import DeclLint.Proofs.Engine.Fixes
import DeclLint.Proofs.Engine.Switches
import DeclLint.Proofs.Engine.Boundary
import DeclLint.Proofs.Edit.Overlap
import DeclLint.Proofs.Engine.Unresolved
import DeclLint.Proofs.Engine.Origin
import DeclLint.Proofs.Snapshot.Lossless
import DeclLint.Proofs.Text.Lines
import DeclLint.Proofs.Rules.TagFixes
import DeclLint.Proofs.Text.LineIndex
import DeclLint.Proofs.Edit.ListItems
import DeclLint.Proofs.Rules.TagInsertion
import DeclLint.Proofs.Code.Search
import DeclLint.Proofs.Rules.StreamOperators
import DeclLint.Proofs.Rules.MissingCalls
import DeclLint.Proofs.Rules.Producers
import DeclLint.Proofs.Name
import DeclLint.Proofs.Symbol.Growth
import DeclLint.Proofs.Text.ByteOrder
import DeclLint.Proofs.Settings.Options
import DeclLint.Proofs.Rules.Options
import DeclLint.Proofs.Engine.Build
import DeclLint.Proofs.Text.Occurrences
import DeclLint.Proofs.Text.Search
import DeclLint.Proofs.Edit.Listing
import DeclLint.Proofs.Code.Visits
import DeclLint.Proofs.Rules.FreshName
import DeclLint.Proofs.Rule.Indent
import DeclLint.Proofs.Code.Building
