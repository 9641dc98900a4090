import TunnelChain.Wire.Message

/-!
A plan for a whole chain of tunnels. The first server is the exit, the last one the entry that the
device talks to directly; relays route nothing but their own gateways and the next server inward.
-/
namespace TunnelChain

structure Server where
  publicKey : String
  gatewayIpv4 : String
  gatewayIpv6 : String
  addressIpv4 : String
  addressIpv6 : String
  port : UInt16
deriving DecidableEq, Repr, Inhabited

structure Device where
  ipv4 : String
  ipv6 : String
deriving DecidableEq, Repr, Inhabited

structure Plan where
  privateKey : String
  device : Device
  servers : List Server
  ranges : List RangeEntry
  ipv6Enabled : Bool
deriving DecidableEq, Repr, Inhabited

namespace Server

def reader : Json.Reader Server :=
  Json.Record.read "Server" <|
    Server.mk <$> .required "publicKey" .text <*> .required "ipv4Gateway" .text
      <*> .required "ipv6Gateway" .text <*> .required "ipv4AddrIn" .text
      <*> .required "ipv6AddrIn" .text <*> .required "port" .natural16

def toJson (server : Server) : Json :=
  .obj [("publicKey", .str server.publicKey), ("ipv4Gateway", .str server.gatewayIpv4),
    ("ipv6Gateway", .str server.gatewayIpv6), ("ipv4AddrIn", .str server.addressIpv4),
    ("ipv6AddrIn", .str server.addressIpv6), ("port", natJson server.port.toNat)]

end Server

namespace Device

def reader : Json.Reader Device :=
  Json.Record.read "Device"
    (Device.mk <$> .required "ipv4Address" .text <*> .required "ipv6Address" .text)

def toJson (device : Device) : Json :=
  .obj [("ipv4Address", .str device.ipv4), ("ipv6Address", .str device.ipv6)]

end Device

namespace RangeEntry

def host (address : String) (isIpv6 : Bool) : RangeEntry :=
  ⟨address, if isIpv6 then 128 else 32, isIpv6⟩

end RangeEntry

namespace Plan

def reader : Json.Reader Plan :=
  Json.Record.read "ActivationPlan" <|
    Plan.mk <$> .required "privateKey" .text <*> .required "device" Device.reader
      <*> .required "servers" (.list Server.reader)
      <*> .required "allowedIPAddressRanges" (.list RangeEntry.reader)
      <*> .withDefault "ipv6Enabled" false .flag

def toJson (plan : Plan) : Json :=
  .obj [("privateKey", .str plan.privateKey), ("device", plan.device.toJson),
    ("servers", .arr (plan.servers.map Server.toJson)),
    ("allowedIPAddressRanges", .arr (plan.ranges.map RangeEntry.toJson)),
    ("ipv6Enabled", .bool plan.ipv6Enabled)]

def relayDevice (hop : HopIndex) : Device :=
  ⟨"10.64.255." ++ toString hop.toNat ++ "/32",
    "fc00:bbbb:bbbb:bb01::" ++ toString hop.toNat ++ ":beef/128"⟩

def request (plan : Plan) (hop : HopIndex) (device : Device) (server : Server)
    (ranges : List RangeEntry) : TunnelRequest :=
  { hop := some hop
    privateKey := plan.privateKey
    deviceIpv4 := device.ipv4
    deviceIpv6 := device.ipv6
    gatewayIpv4 := server.gatewayIpv4
    gatewayIpv6 := server.gatewayIpv6
    publicKey := server.publicKey
    serverIpv4 := server.addressIpv4
    serverIpv6 := server.addressIpv6
    port := server.port
    ipv6Enabled := plan.ipv6Enabled
    ranges }

/-- What a relay routes: its gateways and the server next to it on the way to the exit. -/
def relayRanges (server inward : Server) : List RangeEntry :=
  [.host server.gatewayIpv4 false, .host server.gatewayIpv6 true, .host inward.addressIpv4 false,
    .host inward.addressIpv6 true]

/-- Requests for relays outward from hop number `hop`, whose inward neighbour is given, in order of
hops. -/
def relayRequests (plan : Plan) (hop : Nat) (inward : Server) : List Server → List TunnelRequest
  | [] => []
  | server :: rest =>
    let index := UInt32.ofNat hop
    plan.request index (relayDevice index) server (relayRanges server inward) ::
      relayRequests plan (hop + 1) server rest

/-- The requests for all hops, the exit first. -/
def requests (plan : Plan) : List TunnelRequest :=
  match plan.servers with
  | [] => []
  | exit :: relays =>
    plan.request 0 plan.device exit plan.ranges :: relayRequests plan 1 exit relays

/-- The activation messages in the order they are sent: the entry first, the exit last. -/
def messages (plan : Plan) : List ClientMessage :=
  plan.requests.reverse.map .activate

def hopCount (plan : Plan) : Nat :=
  plan.servers.length

end Plan

end TunnelChain
