import TunnelChain.Decimal.Natural
import TunnelChain.Endpoint.Search
import TunnelChain.Engine.Basic
import TunnelChain.Engine.Command
import TunnelChain.Text.Blank

/-!
What the programs `ip`, `wg` and `resolvectl` are told, and what they print.
-/
namespace TunnelChain

structure RouteVia where
  gateway : String
  device : String
deriving DecidableEq, Repr

namespace RouteVia

/-- The word after the first occurrence of `key` that has one. -/
def wordAfter (key : String) : List String → Option String
  | [] => none
  | [_] => none
  | word :: next :: rest => if word = key then some next else wordAfter key (next :: rest)

/-- Reads what a route look-up prints; a route without a gateway gives nothing. -/
def ofText? (text : String) : Option RouteVia :=
  match wordAfter "via" (words text), wordAfter "dev" (words text) with
  | some gateway, some device => some ⟨gateway, device⟩
  | _, _ => none

end RouteVia

def familyFlag (isIpv6 : Bool) : String :=
  if isIpv6 then "-6" else "-4"

namespace AddressRange

/-- The routes for a range; a range of everything is two halves, so that a default route beside it
stays. -/
def routePrefixes (range : AddressRange) : List String :=
  if range.length ≠ 0 then [range.text]
  else
    match range.family with
    | .ipv4 => ["0.0.0.0/1", "128.0.0.0/1"]
    | .ipv6 => ["::/1", "8000::/1"]

end AddressRange

def hostRoute (ip : Ip) : String :=
  ip.text ++ "/" ++ toString ip.family.maxPrefixLength

namespace Command

def ip (arguments : List String) : Command :=
  ⟨"ip", arguments, none⟩

def wg (arguments : List String) : Command :=
  ⟨"wg", arguments, none⟩

def resolvectl (arguments : List String) : Command :=
  ⟨"resolvectl", arguments, none⟩

def showLink (name : String) : Command :=
  ip ["link", "show", "dev", name]

def addLink (name : String) : Command :=
  ip ["link", "add", "dev", name, "type", "wireguard"]

def deleteLink (name : String) : Command :=
  ip ["link", "del", "dev", name]

def setLinkUp (name : String) (mtu : UInt16) : Command :=
  ip ["link", "set", "dev", name, "mtu", toString mtu.toNat, "up"]

/-- The commands for the device addresses, the IPv6 one only when IPv6 is enabled. -/
def addAddresses (tunnel : Tunnel) : List Command :=
  ip ["-4", "address", "add", tunnel.deviceIpv4, "dev", tunnel.name] ::
    if tunnel.ipv6Enabled then
      [ip ["-6", "address", "add", tunnel.deviceIpv6, "dev", tunnel.name]] else []

def getRoute (peer : Ip) : Command :=
  ip [familyFlag peer.family.isIpv6, "route", "get", peer.text]

def replaceRoute (family : Family) (name route : String) : Command :=
  ip [familyFlag family.isIpv6, "route", "replace", route, "dev", name]

def replaceHostRoute (peer : Ip) (via : RouteVia) : Command :=
  ip [familyFlag peer.family.isIpv6, "route", "replace", hostRoute peer, "via", via.gateway, "dev",
    via.device]

def removeRoute (route : String) : Command :=
  ip [familyFlag (route.toList.contains ':'), "route", "del", route]

def showPeers (name : String) : Command :=
  wg ["show", name, "peers"]

def showTransfer (name : String) : Command :=
  wg ["show", name, "transfer"]

def removePeer (name peer : String) : Command :=
  wg ["set", name, "peer", peer, "remove"]

/-- Sets the peer; the private key goes over standard input. -/
def setPeer (tunnel : Tunnel) (endpoint : Endpoint) : Command :=
  let allowed := ",".intercalate (tunnel.ranges.map AddressRange.text)
  let arguments :=
    ["set", tunnel.name, "private-key", "/dev/stdin", "peer", tunnel.publicKey, "endpoint",
      endpoint.text]
  ⟨"wg", arguments ++ (if allowed.isEmpty then [] else ["allowed-ips", allowed]),
    some tunnel.privateKey⟩

def setResolvers (name : String) (resolvers : List String) : Command :=
  resolvectl (["dns", name] ++ resolvers)

def claimDomains (name : String) : Command :=
  resolvectl ["domain", name, "~."]

def revertResolvers (name : String) : Command :=
  resolvectl ["revert", name]

end Command

/-- The peers that a listing shows besides the one to keep. -/
def stalePeers (listing kept : String) : List String :=
  ((lines listing).map trimText).filter fun peer => !peer.isEmpty && peer ≠ kept

namespace Throughput

/-- A decimal count of at most 64 bits, 0 for anything else. -/
def count (text : String) : UInt64 :=
  match (Decimal.natural? text).filter (· < UInt64.size) with
  | some value => UInt64.ofNat value
  | none => 0

/-- Adds up lines of a peer, the bytes received and the bytes sent. -/
def ofText (text : String) : Throughput :=
  (lines text).foldl
    (fun total line =>
      match words line with
      | [_, received, sent] => ⟨total.sent + count sent, total.received + count received⟩
      | _ => total)
    ⟨0, 0⟩

end Throughput

end TunnelChain
