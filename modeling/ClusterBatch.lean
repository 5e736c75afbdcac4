import ClusterBatch.Argument
import ClusterBatch.Assignment
import ClusterBatch.Backoff
import ClusterBatch.Batch.Basic
import ClusterBatch.Batch.Operation
import ClusterBatch.Bytes
import ClusterBatch.Client
import ClusterBatch.Command.Basic
import ClusterBatch.Command.Keys
import ClusterBatch.Directory
import ClusterBatch.Discovery
import ClusterBatch.Dispatch
import ClusterBatch.Distinct
import ClusterBatch.Double.Basic
import ClusterBatch.Double.Decimal
import ClusterBatch.Double.Layout
import ClusterBatch.Double.Rounding
import ClusterBatch.Double.Shortest
import ClusterBatch.Draws
import ClusterBatch.Error
import ClusterBatch.Exchange
import ClusterBatch.Json.Basic
import ClusterBatch.Json.Reader
import ClusterBatch.Json.Writer
import ClusterBatch.Network
import ClusterBatch.NodeAddress
import ClusterBatch.Outcome
import ClusterBatch.Pipeline
import ClusterBatch.Proofs.AddressText
import ClusterBatch.Proofs.Annotations
import ClusterBatch.Proofs.Attempts
import ClusterBatch.Proofs.Attributes
import ClusterBatch.Proofs.BatchBuilding
import ClusterBatch.Proofs.Broadcasts
import ClusterBatch.Proofs.Checksums
import ClusterBatch.Proofs.Compositional
import ClusterBatch.Proofs.CountedKeys
import ClusterBatch.Proofs.Coverage
import ClusterBatch.Proofs.CrossSlots
import ClusterBatch.Proofs.Decodable
import ClusterBatch.Proofs.DecodedReplies
import ClusterBatch.Proofs.Delays
import ClusterBatch.Proofs.Delivery
import ClusterBatch.Proofs.Demultiplexing
import ClusterBatch.Proofs.DirectoryHistory
import ClusterBatch.Proofs.DispatchRun
import ClusterBatch.Proofs.DoubleText
import ClusterBatch.Proofs.EmptyHosts
import ClusterBatch.Proofs.ErrorLines
import ClusterBatch.Proofs.Evolution
import ClusterBatch.Proofs.Failures
import ClusterBatch.Proofs.Fallible
import ClusterBatch.Proofs.FrameEnds
import ClusterBatch.Proofs.Framing
import ClusterBatch.Proofs.Gaps
import ClusterBatch.Proofs.HashTags
import ClusterBatch.Proofs.JsonText
import ClusterBatch.Proofs.LossyText
import ClusterBatch.Proofs.NodeListings
import ClusterBatch.Proofs.OneShard
import ClusterBatch.Proofs.OperationKeys
import ClusterBatch.Proofs.Packing
import ClusterBatch.Proofs.Questions
import ClusterBatch.Proofs.Reader
import ClusterBatch.Proofs.Recognizers
import ClusterBatch.Proofs.RedirectChains
import ClusterBatch.Proofs.RedirectTexts
import ClusterBatch.Proofs.Refreshing
import ClusterBatch.Proofs.ReplySplitting
import ClusterBatch.Proofs.Requests
import ClusterBatch.Proofs.Retries
import ClusterBatch.Proofs.Rotation
import ClusterBatch.Proofs.RoundTrip
import ClusterBatch.Proofs.RoutingRules
import ClusterBatch.Proofs.SearchRounds
import ClusterBatch.Proofs.Searches
import ClusterBatch.Proofs.Sends
import ClusterBatch.Proofs.SettingsText
import ClusterBatch.Proofs.ShardOrder
import ClusterBatch.Proofs.SlotsReplies
import ClusterBatch.Proofs.Spreading
import ClusterBatch.Proofs.StreamReads
import ClusterBatch.Proofs.Trails
import ClusterBatch.Proofs.Transactions
import ClusterBatch.Proofs.WireEquality
import ClusterBatch.Redirect
import ClusterBatch.Reply.Basic
import ClusterBatch.Reply.Decode
import ClusterBatch.Reply.DecodeError
import ClusterBatch.Reply.Diagnostic
import ClusterBatch.Reply.Encode
import ClusterBatch.Reply.Marker
import ClusterBatch.Reply.Parts
import ClusterBatch.Request
import ClusterBatch.Routing
import ClusterBatch.Saturating
import ClusterBatch.ScriptedCluster
import ClusterBatch.Session
import ClusterBatch.Settings.Basic
import ClusterBatch.Settings.Json
import ClusterBatch.Slot.Basic
import ClusterBatch.Slot.Crc16
import ClusterBatch.Text.Blank
import ClusterBatch.Text.Numeral
import ClusterBatch.Text.Printable
import ClusterBatch.Text.Quoted
import ClusterBatch.Text.Utf8
import ClusterBatch.Topology.Basic
import ClusterBatch.Topology.Lookup
import ClusterBatch.Topology.SlotsReply
import ClusterBatch.Transaction
