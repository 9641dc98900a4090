import TunnelChain.Hop.Naming

/-!
The settings of one hop's tunnel. They come from a checked request: no text field holds a line
break, and every range kept is an address of its family with a length in bounds.
-/
namespace TunnelChain

structure Tunnel where
  hop : HopIndex
  privateKey : String
  deviceIpv4 : String
  deviceIpv6 : String
  gatewayIpv4 : String
  gatewayIpv6 : String
  publicKey : String
  serverIpv4 : String
  serverIpv6 : String
  port : UInt16
  ipv6Enabled : Bool
  ranges : List AddressRange
  name : String
deriving DecidableEq, Repr, Inhabited

inductive TunnelError where
  | undecodable (fault : Json.Fault)
  | lineBreak (field : String)
  | badAddress (address : String) (family : Family)
  | badLength (address : String) (length : UInt32)
deriving DecidableEq, Repr

namespace TunnelError

def message : TunnelError → String
  | .undecodable fault => "Invalid activate message: " ++ fault.message
  | .lineBreak field => "Field `" ++ field ++ "` is invalid: contains a line break"
  | .badAddress address family =>
    "Address `" ++ address ++ "` is not a valid " ++ family.label ++ " address"
  | .badLength address length =>
    "Prefix length " ++ toString length.toNat ++ " is out of bounds for `" ++ address ++ "`"

end TunnelError

namespace AddressRange

def ofEntry (entry : RangeEntry) : Except TunnelError AddressRange :=
  let family := Family.ofIsIpv6 entry.isIpv6
  if !Ip.isText family entry.address then .error (.badAddress entry.address family)
  else if family.maxPrefixLength < entry.length.toNat then
    .error (.badLength entry.address entry.length)
  else .ok ⟨entry.address, entry.length.toUInt8, family⟩

end AddressRange

namespace TunnelRequest

/-- The text fields with their names, in order of declaration. -/
def textFields (request : TunnelRequest) : List (String × String) :=
  [("privateKey", request.privateKey), ("deviceIpv4Address", request.deviceIpv4),
    ("deviceIpv6Address", request.deviceIpv6), ("serverIpv4Gateway", request.gatewayIpv4),
    ("serverIpv6Gateway", request.gatewayIpv6), ("serverPublicKey", request.publicKey),
    ("serverIpv4AddrIn", request.serverIpv4), ("serverIpv6AddrIn", request.serverIpv6)]

/-- The entries that count: IPv6 ones only when IPv6 is enabled. -/
def keptRanges (request : TunnelRequest) : List RangeEntry :=
  request.ranges.filter fun entry => !entry.isIpv6 || request.ipv6Enabled

end TunnelRequest

def hasLineBreak (text : String) : Bool :=
  text.toList.any fun c => c = '\n' || c = '\r'

namespace Tunnel

def ofRequest (nameOf : HopIndex → String) (request : TunnelRequest) : Except TunnelError Tunnel :=
  match request.textFields.find? (hasLineBreak ·.2) with
  | some (field, _) => .error (.lineBreak field)
  | none => do
    let ranges ← request.keptRanges.mapM AddressRange.ofEntry
    let hop := request.hop.getD 0
    pure
      { hop
        privateKey := request.privateKey
        deviceIpv4 := request.deviceIpv4
        deviceIpv6 := request.deviceIpv6
        gatewayIpv4 := request.gatewayIpv4
        gatewayIpv6 := request.gatewayIpv6
        publicKey := request.publicKey
        serverIpv4 := request.serverIpv4
        serverIpv6 := request.serverIpv6
        port := request.port
        ipv6Enabled := request.ipv6Enabled
        ranges
        name := nameOf hop }

def ofBody (nameOf : HopIndex → String) (body : Json) : Except TunnelError Tunnel := do
  let request ← (TunnelRequest.reader.ofJson body).mapError .undecodable
  ofRequest nameOf request

def toRequest (tunnel : Tunnel) : TunnelRequest :=
  { hop := some tunnel.hop
    privateKey := tunnel.privateKey
    deviceIpv4 := tunnel.deviceIpv4
    deviceIpv6 := tunnel.deviceIpv6
    gatewayIpv4 := tunnel.gatewayIpv4
    gatewayIpv6 := tunnel.gatewayIpv6
    publicKey := tunnel.publicKey
    serverIpv4 := tunnel.serverIpv4
    serverIpv6 := tunnel.serverIpv6
    port := tunnel.port
    ipv6Enabled := tunnel.ipv6Enabled
    ranges := tunnel.ranges.map AddressRange.toEntry }

/-- The name servers behind the tunnel: its gateways, the IPv6 one only when IPv6 is enabled. -/
def resolvers (tunnel : Tunnel) : List String :=
  if tunnel.ipv6Enabled then [tunnel.gatewayIpv4, tunnel.gatewayIpv6] else [tunnel.gatewayIpv4]

/-- Whether the tunnel can take the place of `current` by a change of peer alone: hop, key, device
addresses and gateways agree. -/
def canReplace (tunnel current : Tunnel) : Bool :=
  tunnel.hop = current.hop && tunnel.privateKey = current.privateKey &&
    tunnel.deviceIpv4 = current.deviceIpv4 && tunnel.deviceIpv6 = current.deviceIpv6 &&
    tunnel.gatewayIpv4 = current.gatewayIpv4 && tunnel.gatewayIpv6 = current.gatewayIpv6

/-- The tunnel as the log shows it, without its key. -/
def summary (tunnel : Tunnel) : String :=
  Quoted.record "InterfaceConfig"
    [("hop_index", toString tunnel.hop.toNat), ("ifname", Quoted.quote tunnel.name),
      ("private_key", Quoted.quote "<redacted>"),
      ("device_ipv4_address", Quoted.quote tunnel.deviceIpv4),
      ("device_ipv6_address", Quoted.quote tunnel.deviceIpv6),
      ("server_ipv4_gateway", Quoted.quote tunnel.gatewayIpv4),
      ("server_ipv6_gateway", Quoted.quote tunnel.gatewayIpv6),
      ("server_public_key", Quoted.quote tunnel.publicKey),
      ("server_ipv4_addr_in", Quoted.quote tunnel.serverIpv4),
      ("server_ipv6_addr_in", Quoted.quote tunnel.serverIpv6),
      ("server_port", toString tunnel.port.toNat), ("ipv6_enabled", toString tunnel.ipv6Enabled),
      ("allowed_ip_ranges", Quoted.list (tunnel.ranges.map rangeSummary))]
where
  rangeSummary (range : AddressRange) : String :=
    Quoted.record "IpAddressRange"
      [("address", Quoted.quote range.address), ("range", toString range.length.toNat),
        ("family", range.family.label)]

end Tunnel

end TunnelChain
