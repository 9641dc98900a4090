import TunnelChain.Endpoint.Search
import TunnelChain.Engine.Command
import TunnelChain.Engine.Routing
import TunnelChain.Table

/-!
Tunnels on a Linux system, through the programs `ip`, `wg` and `resolvectl`. The peer's address gets
a host route over the path it had before the tunnel came up, so that it is never routed into the
tunnel that it carries.
-/
namespace TunnelChain

/-- What stays the same: the packet size, and how peer hosts are found. -/
structure LinuxSettings where
  mtu : UInt16
  retry : RetryPolicy
  lookup : String → UInt16 → Nat → Lookup

/-- The system behind a runner, the host route pinned for each interface, and the link whose name
servers were set. -/
structure Linux (ρ : Type) where
  commands : ρ
  pinned : Table String String
  link : Option String

namespace Linux

variable {ρ : Type}

def fresh (commands : ρ) : Linux ρ :=
  ⟨commands, Table.empty, none⟩

/-- A call under way, with the log lines it has written. -/
structure Work (ρ : Type) where
  host : Linux ρ
  log : List LogLine

namespace Work

def note (work : Work ρ) (level : Level) (text : String) : Work ρ :=
  { work with log := work.log ++ [⟨level, text⟩] }

def setPinned (work : Work ρ) (pinned : Table String String) : Work ρ :=
  { work with host := { work.host with pinned } }

def setLink (work : Work ρ) (link : Option String) : Work ρ :=
  { work with host := { work.host with link } }

/-- Runs a command for its output, unless an argument cannot be handed over. -/
def submit (run : Runner ρ) (work : Work ρ) (command : Command) : Except String String × Work ρ :=
  let work := work.note .debug ("Running " ++ command.line)
  if command.hasNul then (command.result (.unspawned "nul byte found in provided data"), work)
  else
    let (reply, commands) := run command work.host.commands
    (command.result reply, { work with host := { work.host with commands } })

def submitAll (run : Runner ρ) (work : Work ρ) : List Command → Except String Unit × Work ρ
  | [] => (.ok (), work)
  | command :: rest =>
    match work.submit run command with
    | (.ok _, work) => submitAll run work rest
    | (.error reason, work) => (.error reason, work)

/-- Removes the host route pinned for an interface; the interface has none afterwards, even if that
fails. -/
def unpin (run : Runner ρ) (name : String) (work : Work ρ) : Work ρ :=
  match work.host.pinned.get? name with
  | none => work
  | some route =>
    match (work.setPinned (work.host.pinned.erase name)).submit run (.removeRoute route) with
    | (.ok _, work) => work
    | (.error reason, work) =>
      work.note .warn ("Unable to remove pinned route " ++ route ++ ": " ++ reason)

/-- Pins a host route to the peer over the path in use, unless the path is on-link or one of the
tunnels with a pinned route. -/
def pin (run : Runner ρ) (name : String) (peer : Ip) (work : Work ρ) : Work ρ :=
  match work.submit run (.getRoute peer) with
  | (.error _, work) => work.note .warn ("No existing route to endpoint of " ++ name)
  | (.ok printed, work) =>
    match RouteVia.ofText? printed with
    | none => work.note .debug ("Endpoint of " ++ name ++ " is on-link, nothing to pin")
    | some via =>
      if work.host.pinned.contains via.device then work
      else
        match work.submit run (.replaceHostRoute peer via) with
        | (.ok _, work) => work.setPinned (work.host.pinned.insert name (hostRoute peer))
        | (.error reason, work) =>
          work.note .warn ("Unable to pin endpoint route for " ++ name ++ ": " ++ reason)

end Work

/-- Points the interface at its peer and makes that the only one. -/
def configure (settings : LinuxSettings) (run : Runner ρ) (tunnel : Tunnel) (work : Work ρ) :
    Except String Unit × Work ρ :=
  let search :=
    Search.resolve tunnel.serverIpv4 tunnel.port settings.retry
      (settings.lookup tunnel.serverIpv4 tunnel.port)
  let work := { work with log := work.log ++ search.log }
  match search.result with
  | .error error => (.error error.message, work)
  | .ok endpoint =>
    match work.submit run (.showPeers tunnel.name) with
    | (.error reason, work) => (.error reason, work)
    | (.ok listing, work) =>
      match work.submitAll run
        ((stalePeers listing tunnel.publicKey).map (.removePeer tunnel.name)) with
      | (.error reason, work) => (.error reason, work)
      | (.ok _, work) =>
        match ((work.unpin run tunnel.name).pin run tunnel.name endpoint.ip).submit run
          (.setPeer tunnel endpoint) with
        | (.error reason, work) => (.error reason, work)
        | (.ok _, work) =>
          (.ok (), work.note .info ("Peer of " ++ tunnel.name ++ " set to " ++ endpoint.text))

/-- Sends every look-up of a name through a link. -/
def updateResolvers (run : Runner ρ) (name : String) (resolvers : List String) (work : Work ρ) :
    Except String Unit × Work ρ :=
  match work.submitAll run [.setResolvers name resolvers, .claimDomains name] with
  | (.error reason, work) => (.error reason, work)
  | (.ok _, work) => (.ok (), work.setLink (some name))

/-- Gives the link whose name servers were set its own back; the link is forgotten, even if that
fails. -/
def restoreResolvers (run : Runner ρ) (work : Work ρ) : Except String Unit × Work ρ :=
  match work.host.link with
  | none => (.ok (), work)
  | some link => (work.setLink none).submitAll run [.revertResolvers link]

def deleteInterface (run : Runner ρ) (name : String) (work : Work ρ) :
    Except String Unit × Work ρ :=
  match work.submit run (.deleteLink name) with
  | (.error reason, work) => (.error reason, work)
  | (.ok _, work) => (.ok (), work.unpin run name)

def carryOut (settings : LinuxSettings) (run : Runner ρ) (work : Work ρ) :
    Call → Except String Unit × Work ρ
  | .addInterface tunnel => work.submitAll run [.addLink tunnel.name]
  | .configureInterface tunnel => configure settings run tunnel work
  | .deleteInterface name => deleteInterface run name work
  | .addRoutePrefix name range =>
    work.submitAll run (range.routePrefixes.map (.replaceRoute range.family name))
  | .updateResolvers name resolvers => updateResolvers run name resolvers work
  | .restoreResolvers => restoreResolvers run work
  | .addInterfaceIPs tunnel => work.submitAll run (Command.addAddresses tunnel)
  | .setMTUAndUp tunnel => work.submitAll run [.setLinkUp tunnel.name settings.mtu]

/-- A piece of work as the system's answer to it. -/
def outcome {α β : Type} (finish : Except String α → β) (result : Except String α × Work ρ) :
    Outcome (Linux ρ) β :=
  ⟨finish result.1, result.2.host, result.2.log⟩

def engine (settings : LinuxSettings) (run : Runner ρ) : Engine (Linux ρ) where
  name := "linux"
  perform call host :=
    outcome (·.mapError (Failure.mk call.step)) (carryOut settings run ⟨host, []⟩ call)
  hasInterface name host := outcome Except.isOk (Work.submit run ⟨host, []⟩ (.showLink name))
  throughput name host :=
    outcome (fun answer => (answer.mapError (Failure.mk .getThroughput)).map Throughput.ofText)
      (Work.submit run ⟨host, []⟩ (.showTransfer name))
  supportsSwitching _ := true
  isAlive _ := true

end Linux

end TunnelChain
