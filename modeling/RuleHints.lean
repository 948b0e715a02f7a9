import RuleHints.Text.Basic
import RuleHints.Text.Blank
import RuleHints.Text.Digit
import RuleHints.Text.CaseTable
import RuleHints.Text.Casing
import RuleHints.Text.Utf8
import RuleHints.Json.Number
import RuleHints.Json.Basic
import RuleHints.Json.Printer
import RuleHints.Json.Source
import RuleHints.Limits
import RuleHints.Failure
import RuleHints.Document.Reading
import RuleHints.Plugin.Hint
import RuleHints.Plugin.Metadata
import RuleHints.Plugin.Directory
import RuleHints.Line.Column
import RuleHints.Line.Token
import RuleHints.Line.Classify
import RuleHints.Line.Target
import RuleHints.Registry
import RuleHints.RuleName
import RuleHints.Candidate.Basic
import RuleHints.Candidate.Protocol
import RuleHints.Candidate.Build
import RuleHints.Hint.Set
import RuleHints.Line.Range
import RuleHints.Yaml.Cell
import RuleHints.Yaml.Scalar
import RuleHints.Yaml.Tag
import RuleHints.Yaml.Token
import RuleHints.Yaml.Node
import RuleHints.Yaml.Resolve
import RuleHints.Document.Load
import RuleHints.Settings.Basic
import RuleHints.Table
import RuleHints.FileTree
import RuleHints.Settings.Load
import RuleHints.Settings.Log
import RuleHints.Docs.Corpus
import RuleHints.Hint.Session
import RuleHints.Hint.Payload
import RuleHints.Help
import RuleHints.Remote.Request
import RuleHints.Remote.Traffic
import RuleHints.Remote.Fetcher
import RuleHints.Editor
import RuleHints.Assistant
import RuleHints.Url.Percent
import RuleHints.Url.Address
import RuleHints.Url.Host
import RuleHints.Url.Basic
import RuleHints.Url.Path
import RuleHints.Url.Read
import RuleHints.Remote.Http
import RuleHints.Text.Order
import RuleHints.Text.Rows
import RuleHints.Text.NormalTable
import RuleHints.Text.Normal
import RuleHints.Url.Punycode
import RuleHints.Url.NameTable
import RuleHints.Url.Name
import RuleHints.Proofs.Line.Classification
import RuleHints.Proofs.Line.ReadBack
import RuleHints.Proofs.Line.Span
import RuleHints.Proofs.Assistant.Run
import RuleHints.Proofs.Assistant.Arrival
import RuleHints.Proofs.Assistant.Freshness
import RuleHints.Proofs.Assistant.Integrity
import RuleHints.Proofs.Remote.Debounce
import RuleHints.Proofs.Assistant.Screen
import RuleHints.Proofs.Assistant.Calls
import RuleHints.Proofs.Assistant.Reuse
import RuleHints.Proofs.Assistant.Supersession
import RuleHints.Proofs.Line.ProtocolRange
import RuleHints.Proofs.Line.Checked
import RuleHints.Proofs.Assistant.PopupRange
import RuleHints.Proofs.Hint.Agreement
import RuleHints.Proofs.Line.Grammar
import RuleHints.Proofs.Assistant.PopupSize
import RuleHints.Proofs.Assistant.Switch
import RuleHints.Proofs.Assistant.Blur
import RuleHints.Proofs.Candidate.Ranking
import RuleHints.Proofs.Hint.Reference
import RuleHints.Proofs.Line.Rebuilding
import RuleHints.Proofs.Line.Triggers
import RuleHints.Proofs.Line.Boundary
import RuleHints.Proofs.Files.Walk
import RuleHints.Proofs.Docs.Insertions
import RuleHints.Proofs.Docs.Merging
import RuleHints.Proofs.Docs.History
import RuleHints.Proofs.Docs.Tooltip
import RuleHints.Proofs.Remote.Replacement
import RuleHints.Proofs.Candidate.PluginNames
import RuleHints.Proofs.Plugin.Scope
import RuleHints.Proofs.Docs.RuleNames
import RuleHints.Proofs.Json.Printed
import RuleHints.Proofs.Document.Records
import RuleHints.Proofs.Document.RoundTrip
import RuleHints.Proofs.Text.ByteOrder
import RuleHints.Proofs.Plugin.Registration
import RuleHints.Proofs.Assistant.Construction
