import PodPlacement.Chooser.Basic
import PodPlacement.Chooser.Error
import PodPlacement.Chooser.Lock
import PodPlacement.Chooser.Random
import PodPlacement.Chooser.Selection
import PodPlacement.Chooser.Sticky
import PodPlacement.Cluster.LabelValue
import PodPlacement.Cluster.Labels
import PodPlacement.Cluster.Pod
import PodPlacement.Cluster.PodJson
import PodPlacement.Cluster.Selector
import PodPlacement.Config.Basic
import PodPlacement.Config.Factory
import PodPlacement.Config.File
import PodPlacement.Config.Hcl
import PodPlacement.Config.Json
import PodPlacement.Config.Validation
import PodPlacement.Decode.Fault
import PodPlacement.Decode.Field
import PodPlacement.Discovery.Basic
import PodPlacement.Discovery.Error
import PodPlacement.Discovery.Future
import PodPlacement.Discovery.IdleClock
import PodPlacement.Discovery.Lister
import PodPlacement.Discovery.Poll
import PodPlacement.Draw.Source
import PodPlacement.Draw.Uniform
import PodPlacement.Draw.WordStream
import PodPlacement.Event.Basic
import PodPlacement.Event.Filter
import PodPlacement.Event.Log
import PodPlacement.Event.Pattern
import PodPlacement.Hcl.Body
import PodPlacement.Hcl.Content
import PodPlacement.Hcl.Decode
import PodPlacement.Hcl.Expr
import PodPlacement.Hcl.Form
import PodPlacement.Hcl.Heredoc
import PodPlacement.Hcl.Parser
import PodPlacement.Hcl.Printer
import PodPlacement.Hcl.Sameness
import PodPlacement.Hcl.Syntax
import PodPlacement.Hcl.Template
import PodPlacement.Hcl.Token
import PodPlacement.Json.Basic
import PodPlacement.Json.Decode
import PodPlacement.Json.Fault
import PodPlacement.Json.Number
import PodPlacement.Json.Printer
import PodPlacement.Json.Reader
import PodPlacement.Json.Text
import PodPlacement.Number.Binary64
import PodPlacement.Number.Digits
import PodPlacement.Number.Layout
import PodPlacement.Number.Shortest
import PodPlacement.Proofs.BrokenRules
import PodPlacement.Proofs.BuiltChoosers
import PodPlacement.Proofs.ConfigForms
import PodPlacement.Proofs.Diagnostics
import PodPlacement.Proofs.DigitRuns
import PodPlacement.Proofs.DrawAccounting
import PodPlacement.Proofs.Interchange
import PodPlacement.Proofs.JsonRoundTrip
import PodPlacement.Proofs.LabelGrammar
import PodPlacement.Proofs.LabelReasons
import PodPlacement.Proofs.LeftOutNodes
import PodPlacement.Proofs.ListingRace
import PodPlacement.Proofs.Ordered
import PodPlacement.Proofs.Picks
import PodPlacement.Proofs.PodForms
import PodPlacement.Proofs.PointTexts
import PodPlacement.Proofs.Polls
import PodPlacement.Proofs.RecordForms
import PodPlacement.Proofs.RingLookup
import PodPlacement.Proofs.RingOwner
import PodPlacement.Proofs.RunningSet
import PodPlacement.Proofs.SelectorAttempts
import PodPlacement.Proofs.SelectorText
import PodPlacement.Proofs.SessionCalls
import PodPlacement.Proofs.SessionRuns
import PodPlacement.Proofs.Snapshots
import PodPlacement.Proofs.SortedViews
import PodPlacement.Proofs.StampRoundTrip
import PodPlacement.Proofs.StickyFallback
import PodPlacement.Proofs.StickyPlacement
import PodPlacement.Proofs.TestbedRuns
import PodPlacement.Proofs.TextOrder
import PodPlacement.Ring.Basic
import PodPlacement.Ring.Digest
import PodPlacement.Session.Basic
import PodPlacement.Storage.Basic
import PodPlacement.Testbed.Basic
import PodPlacement.Testbed.Fixtures
import PodPlacement.Text.Alphanumeric
import PodPlacement.Text.Blank
import PodPlacement.Text.Escape
import PodPlacement.Text.Glyph
import PodPlacement.Text.Identifier
import PodPlacement.Text.Quoted
import PodPlacement.Text.Ranges
import PodPlacement.Text.Slice
import PodPlacement.Time.Civil
import PodPlacement.Time.Instant
import PodPlacement.Time.Span
import PodPlacement.Time.Stamp
