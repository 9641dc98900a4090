import TunnelChain.Wire.Line
import TunnelChain.Hop.Tunnel
import TunnelChain.Log.Buffer
import TunnelChain.Log.Filter
import TunnelChain.Log.Logger
import TunnelChain.Table
import TunnelChain.Endpoint.HostNumber
import TunnelChain.Engine.Memory
import TunnelChain.Engine.Linux
import TunnelChain.Control.Controller
import TunnelChain.Settings
import TunnelChain.Client.Session
import TunnelChain.Client.Stream
import TunnelChain.Control.Core
import TunnelChain.Service.Reaction
import TunnelChain.Service.Dispatch
import TunnelChain.Service.Connection
import TunnelChain.Service.Listener
import TunnelChain.Operator.Complaint
import TunnelChain.Operator.Amount
import TunnelChain.Operator.Invocation
import TunnelChain.Operator.Site
import TunnelChain.Operator.Errand
import TunnelChain.Operator.Daemon
import TunnelChain.Main
import TunnelChain.Proofs.Table
import TunnelChain.Proofs.Naming
import TunnelChain.Proofs.Exchange
import TunnelChain.Proofs.Memory
import TunnelChain.Proofs.Operation
import TunnelChain.Proofs.Provenance
import TunnelChain.Proofs.Transcript
import TunnelChain.Proofs.Isolation
import TunnelChain.Proofs.Switching
import TunnelChain.Proofs.Agreement
import TunnelChain.Proofs.Broadcast
import TunnelChain.Proofs.Framing
import TunnelChain.Proofs.Utf8
import TunnelChain.Proofs.Json.Lexing
import TunnelChain.Proofs.Json.Parsing
import TunnelChain.Proofs.Json.Reading
import TunnelChain.Proofs.Message
import TunnelChain.Proofs.Json.Printing
import TunnelChain.Proofs.Transport
import TunnelChain.Proofs.Hearing
import TunnelChain.Proofs.Request
import TunnelChain.Proofs.Announcing
import TunnelChain.Proofs.Delivery
import TunnelChain.Proofs.Following
import TunnelChain.Proofs.Desk
import TunnelChain.Proofs.Scene
import TunnelChain.Proofs.FirstView
import TunnelChain.Proofs.Course
import TunnelChain.Proofs.Planning
import TunnelChain.Proofs.Releasing
import TunnelChain.Proofs.Json.Visiting
import TunnelChain.Proofs.Rejection
import TunnelChain.Proofs.Unhindered
import TunnelChain.Proofs.Attending
import TunnelChain.Proofs.Fitting
import TunnelChain.Proofs.Chaining
import TunnelChain.Proofs.Conversing
import TunnelChain.Proofs.Visit
import TunnelChain.Proofs.Accounting
import TunnelChain.Proofs.Reporting
import TunnelChain.Proofs.Recovery
import TunnelChain.Proofs.Serving
import TunnelChain.Proofs.Settling
import TunnelChain.Proofs.Reckoning
import TunnelChain.Proofs.Listening
import TunnelChain.Proofs.Staffing
import TunnelChain.Proofs.Meaning
import TunnelChain.Proofs.LogRequest
import TunnelChain.Proofs.Discipline
import TunnelChain.Proofs.Surfacing
import TunnelChain.Proofs.LogDelivery
import TunnelChain.Proofs.Correspondence
import TunnelChain.Proofs.Json.Agreeing
import TunnelChain.Proofs.Blindness
import TunnelChain.Proofs.Secrecy
import TunnelChain.Proofs.Address
import TunnelChain.Proofs.Admission
import TunnelChain.Proofs.Refusal
import TunnelChain.Proofs.Legs
import TunnelChain.Proofs.Routing
import TunnelChain.Proofs.Layout
import TunnelChain.Proofs.Looping
import TunnelChain.Proofs.Pieces
import TunnelChain.Proofs.LogWindow
import TunnelChain.Proofs.Dismantling
import TunnelChain.Proofs.Searching
import TunnelChain.Proofs.Issuing
import TunnelChain.Proofs.Scripting
import TunnelChain.Proofs.Peering
import TunnelChain.Proofs.Reverting
import TunnelChain.Proofs.Fidelity
import TunnelChain.Proofs.Stopping
import TunnelChain.Proofs.Unpinning
import TunnelChain.Proofs.Lowering
