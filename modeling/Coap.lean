import Coap.OrderedMap
import Coap.Text.Utf8
import Coap.Text.Split
import Coap.Text.Blank
import Coap.Text.Quoted
import Coap.Json.Numeral
import Coap.Method
import Coap.Message.Encode
import Coap.Message.Decode
import Coap.Message.Summary
import Coap.Config
import Coap.Stamped
import Coap.Address
import Coap.Exchange
import Coap.Request
import Coap.Dedup.Basic
import Coap.Tree.Basic
import Coap.Observers
import Coap.Discovery.Filter
import Coap.Url.Percent
import Coap.Url.Host
import Coap.Url.Basic
import Coap.Url.Parser
import Coap.Http.Uri
import Coap.Http.Message
import Coap.Forward.Error
import Coap.Forward.Target
import Coap.Forward.Http
import Coap.Forward.Origin
import Coap.Forward.Forwarder
import Coap.Handler.Shaping
import Coap.Handler.Call
import Coap.Handler.Program
import Coap.Handler.Site
import Coap.Handler.Handling
import Coap.Resource.Standard
import Coap.Handler.Dispatch
import Coap.Udp.Network
import Coap.Udp.Transport
import Coap.Udp.Client
import Coap.Server.Endpoint
import Coap.Server.Basic
import Coap.Server.Deliver
import Coap.Server.Lifecycle
import Coap.Server.Receive
import Coap.Proofs.Wire.Nibble
import Coap.Proofs.Wire.Instances
import Coap.Proofs.Wire.Options
import Coap.Proofs.Wire.Datagram
import Coap.Proofs.Wire.RoundTrip
import Coap.Proofs.Tree.Lookup
import Coap.Proofs.Tree.Release
import Coap.Proofs.Tree.Run
import Coap.Proofs.Dedup.Retained
import Coap.Proofs.Delivery.Once
import Coap.Proofs.Text.Pieces
import Coap.Proofs.Tree.Paths
import Coap.Proofs.Dedup.Generations
import Coap.Proofs.Handling.Answers
import Coap.Proofs.Delivery.Acknowledged
import Coap.Proofs.Wire.Cursor
import Coap.Proofs.Wire.Numbers
import Coap.Proofs.Tree.Subtree
import Coap.Proofs.Observers.Removal
import Coap.Proofs.Dedup.Contents
import Coap.Proofs.Delivery.Histories
import Coap.Proofs.Delivery.Sessions
import Coap.Proofs.Delivery.Restarts
import Coap.Proofs.Observers.Settlement
import Coap.Proofs.Tree.Removal
import Coap.Proofs.Tree.Issued
import Coap.Proofs.Observers.Realm
import Coap.Proofs.Handling.Operations
import Coap.Proofs.Delivery.Identity
import Coap.Proofs.Delivery.Empty
import Coap.Proofs.Forward.Hop
import Coap.Proofs.Handling.Finals
import Coap.Proofs.Delivery.Replies
import Coap.Proofs.Forward.Handler
import Coap.Proofs.Forward.Relay
import Coap.Proofs.Text.Utf8
import Coap.Proofs.Forward.Placement
import Coap.Proofs.Handling.Isolated
import Coap.Proofs.Delivery.Peers
import Coap.Proofs.Url.Percent
import Coap.Proofs.Text.Load
import Coap.Proofs.Url.Path
import Coap.Proofs.Url.Place
import Coap.Proofs.Forward.Parts
import Coap.Proofs.Forward.Restated
import Coap.Proofs.Forward.Assembled
import Coap.Proofs.Url.Recovery
import Coap.Proofs.Dedup.Window
import Coap.Proofs.Dedup.Lifetime
import Coap.Proofs.Forward.Unsafe
import Coap.Proofs.Forward.Tags
import Coap.Proofs.Delivery.Negotiation
import Coap.Proofs.Wire.Refusals
import Coap.Proofs.Wire.Beginnings
import Coap.Proofs.Wire.Cuts
import Coap.Proofs.Handling.Shaped
import Coap.Proofs.Handling.Refused
import Coap.Proofs.Delivery.Datagrams
import Coap.Proofs.Delivery.Routing
import Coap.Proofs.Discovery.Document
import Coap.Proofs.Observers.Refusals
import Coap.Proofs.Wire.Values
import Coap.Proofs.Text.Trim
import Coap.Proofs.Forward.Formats
import Coap.Proofs.Forward.MediaTypes
import Coap.Proofs.Forward.Carried
import Coap.Proofs.Forward.Conditions
import Coap.Proofs.Text.Order
import Coap.Proofs.Tree.Walk
import Coap.Proofs.Tree.Addition
import Coap.Proofs.Observers.Record
import Coap.Proofs.Delivery.Awaited
import Coap.Proofs.Discovery.Selection
import Coap.Proofs.Discovery.Mounted
import Coap.Proofs.Delivery.Endpoints
import Coap.Proofs.Forward.Directives
import Coap.Proofs.Forward.Recased
import Coap.Proofs.Forward.Ages
import Coap.Proofs.Text.Slices
import Coap.Proofs.Forward.Hexadecimal
import Coap.Proofs.Delivery.Numbering
import Coap.Proofs.Exchange.Latest
import Coap.Proofs.Delivery.Latest
