import TunnelChain.Control.Core
import TunnelChain.Log.Buffer
import TunnelChain.Service.Reaction

/-!
What the daemon does about each message. A message that asks for something impossible changes
nothing, and only a failed activation is answered: with the hop that did not come up.
-/
namespace TunnelChain

structure Service (σ : Type) where
  core : Core σ
  naming : Naming
  logs : LogBuffer

namespace Service

variable {σ : Type}

def start (engine : Engine σ) (naming : Naming) (capacity : Nat) (system : σ) :
    Except OperationError Unit × Service σ :=
  let (result, core) := Core.start engine naming system
  (result, ⟨core, naming, .empty capacity⟩)

def note (service : Service σ) (level : Level) (text : String) : Service σ :=
  { service with core := service.core.note level text }

def request (engine : Engine σ) (now : String) (request : Request) (service : Service σ) :
    Except OperationError Answer × Service σ :=
  let (answer, core) := service.core.execute engine now request
  (answer, { service with core })

def activate (engine : Engine σ) (now : String) (body : Json) (service : Service σ) :
    List DaemonMessage × Service σ :=
  match Tunnel.ofBody service.naming.name body with
  | .error error =>
    let hint := hopHint body
    ([.disconnected hint],
      service.note .warn
        ("Rejecting activate for hop " ++ toString hint.toNat ++ ": " ++ error.message))
  | .ok tunnel =>
    match service.request engine now (.activate tunnel) with
    | (.ok _, service) => ([], service)
    | (.error error, service) =>
      ([.disconnected tunnel.hop],
        service.note .error
          ("Activation of hop " ++ toString tunnel.hop.toNat ++ " failed: " ++ error.message))

def deactivate (engine : Engine σ) (now : String) (hop : HopIndex) (service : Service σ) :
    Service σ :=
  match service.request engine now (.deactivate hop) with
  | (.ok _, service) => service
  | (.error error, service) =>
    service.note .warn
      ("Deactivation of hop " ++ toString hop.toNat ++ " failed: " ++ error.message)

/-- The state of the exit hop; when the core cannot tell, nothing is connected. -/
def status (engine : Engine σ) (now : String) (service : Service σ) : StatusReport × Service σ :=
  match service.request engine now .status with
  | (.ok (.report report), service) => (report, service)
  | (.ok .done, service) => (.disconnected, service)
  | (.error error, service) =>
    (.disconnected, service.note .error ("Status unavailable: " ++ error.message))

/-- Handles a message: the replies to its sender, and the service afterwards. -/
def handle (engine : Engine σ) (now : String) (parcel : Parcel) (service : Service σ) :
    List DaemonMessage × Service σ :=
  let service := service.note .debug ("Handling message: " ++ parcel.kind)
  match parcel.kind with
  | "activate" => service.activate engine now parcel.body
  | "deactivate" => ([], service.deactivate engine now (hopHint parcel.body))
  | "status" =>
    let (report, service) := service.status engine now
    ([.status report], service)
  | "logs" => ([.ofLog service.logs.contents], service)
  | "cleanlogs" => ([], { service with logs := service.logs.clear })
  | "version" => ([.version protocolVersion], service)
  | kind => ([], service.note .warn ("Ignoring unknown message type: " ++ kind))

def takeEvents (service : Service σ) : List DaemonMessage × Service σ :=
  let (events, core) := service.core.takeEvents
  (events.map HopEvent.toMessage, { service with core })

/-- Handles a message as one of many senders sees it. -/
def react (engine : Engine σ) (now : String) : Handler (Service σ) := fun parcel service =>
  let (replies, service) := service.handle engine now parcel
  let (events, service) := service.takeEvents
  ⟨replies, events, service⟩

end Service

end TunnelChain
