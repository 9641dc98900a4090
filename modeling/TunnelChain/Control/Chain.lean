import TunnelChain.Hop.Tunnel
import TunnelChain.Table

namespace TunnelChain

/-- A hop that is up: its tunnel, and when it came up. -/
structure ActiveHop where
  tunnel : Tunnel
  since : String
deriving DecidableEq, Repr, Inhabited

/-- The hops that are up, in ascending order. -/
abbrev Chain := Table HopIndex ActiveHop

namespace Chain

def put (chain : Chain) (active : ActiveHop) : Chain :=
  chain.insert active.tunnel.hop active

end Chain

/-- What clients are told of without asking. -/
inductive HopEvent where
  | connected (hop : HopIndex)
  | disconnected (hop : HopIndex)
  | backendFailure
deriving DecidableEq, Repr, Inhabited

namespace HopEvent

def toMessage : HopEvent → DaemonMessage
  | .connected hop => .connected hop
  | .disconnected hop => .disconnected hop
  | .backendFailure => .backendFailure

def summary : HopEvent → String
  | .connected hop => Quoted.record "Connected" [("hop_index", toString hop.toNat)]
  | .disconnected hop => Quoted.record "Disconnected" [("hop_index", toString hop.toNat)]
  | .backendFailure => "BackendFailure"

end HopEvent

end TunnelChain
