import TunnelChain.Control.Chain
import TunnelChain.Control.Error

/-!
Bringing hops up and down. A hop enters the chain at the end of an activation, when nothing can fail
any more, and leaves it once its interface is gone; each time clients are told.
-/
namespace TunnelChain

/-- The chain over a system, with the events and log lines so far, oldest first. -/
structure Controller (σ : Type) where
  chain : Chain
  system : σ
  events : List HopEvent
  log : List LogLine

namespace Tunnel

/-- The calls that build a tunnel where no interface has its name. -/
def buildScript (tunnel : Tunnel) : List Call :=
  [.addInterface tunnel, .configureInterface tunnel] ++
    (if tunnel.hop = 0 then [.updateResolvers tunnel.name tunnel.resolvers] else []) ++
    [.addInterfaceIPs tunnel, .setMTUAndUp tunnel] ++
    tunnel.ranges.map (.addRoutePrefix tunnel.name)

end Tunnel

namespace Controller

variable {σ : Type}

def fresh (system : σ) : Controller σ :=
  ⟨Table.empty, system, [], []⟩

def note (controller : Controller σ) (level : Level) (text : String) : Controller σ :=
  { controller with log := controller.log ++ [⟨level, text⟩] }

def emit (controller : Controller σ) (event : HopEvent) : Controller σ :=
  let controller := controller.note .debug ("Event: " ++ event.summary)
  { controller with events := controller.events ++ [event] }

def ask {α : Type} (controller : Controller σ) (question : σ → Outcome σ α) : α × Controller σ :=
  let outcome := question controller.system
  (outcome.answer,
    { controller with system := outcome.system, log := controller.log ++ outcome.log })

/-- What is logged about a failed call besides the error itself. -/
def noteFailure (controller : Controller σ) (failure : Failure) : Call → Controller σ
  | .addRoutePrefix name _ =>
    controller.note .error ("Routing configuration failed for " ++ name ++ ": " ++ failure.message)
  | _ => controller

def performAll (engine : Engine σ) (controller : Controller σ) :
    List Call → Except Failure Unit × Controller σ
  | [] => (.ok (), controller)
  | call :: rest =>
    match controller.ask (engine.perform call) with
    | (.ok _, controller) => performAll engine controller rest
    | (.error failure, controller) => (.error failure, controller.noteFailure failure call)

/-- Removes an interface that nobody answers for. -/
def removeStale (engine : Engine σ) (controller : Controller σ) (name : String) :
    Except OperationError Unit × Controller σ :=
  match controller.ask (engine.hasInterface name) with
  | (false, controller) => (.ok (), controller)
  | (true, controller) =>
    match performAll engine
      (controller.note .warn ("Stale interface " ++ name ++ " found, removing it"))
      [.deleteInterface name] with
    | (.ok _, controller) => (.ok (), controller)
    | (.error failure, controller) => (.error (.staleInterface name failure), controller)

/-- Removes an exit-hop interface left by an earlier run. -/
def sweep (engine : Engine σ) (naming : Naming) (controller : Controller σ) :
    Except OperationError Unit × Controller σ :=
  removeStale engine controller (naming.name 0)

def commit (controller : Controller σ) (now : String) (tunnel : Tunnel) : Controller σ :=
  { controller with chain := controller.chain.put ⟨tunnel, now⟩ }

/-- Builds a tunnel that is not up, and enters it into the chain. -/
def build (engine : Engine σ) (now : String) (tunnel : Tunnel) (controller : Controller σ) :
    Except OperationError Unit × Controller σ :=
  match removeStale engine (controller.note .debug ("Bringing up " ++ tunnel.summary))
    tunnel.name with
  | (.error error, controller) => (.error error, controller)
  | (.ok _, controller) =>
    match performAll engine controller tunnel.buildScript with
    | (.error failure, controller) => (.error (.backend failure), controller)
    | (.ok _, controller) =>
      (.ok (),
        ((controller.commit now tunnel).note .info ("Interface " ++ tunnel.name ++ " is up")).emit
        (.connected tunnel.hop))

def switch (engine : Engine σ) (now : String) (tunnel : Tunnel) (controller : Controller σ) :
    Except OperationError Unit × Controller σ :=
  match performAll engine controller [.configureInterface tunnel] with
  | (.error failure, controller) => (.error (.backend failure), controller)
  | (.ok _, controller) => (.ok (), (controller.commit now tunnel).emit (.connected tunnel.hop))

def drop (controller : Controller σ) (hop : HopIndex) : Controller σ :=
  { controller with chain := controller.chain.erase hop }

def announceDown (announce : Bool) (hop : HopIndex) (controller : Controller σ) : Controller σ :=
  if announce then controller.emit (.disconnected hop) else controller

/-- Takes down the interface of a hop that is up. A vanished interface takes its hop out of the
chain, too, but is reported. -/
def teardown (engine : Engine σ) (hop : HopIndex) (name : String) (announce : Bool)
    (controller : Controller σ) : Except OperationError Unit × Controller σ :=
  match controller.ask (engine.hasInterface name) with
  | (false, controller) =>
    let controller :=
      controller.note .warn
        ("Interface " ++ name ++ " no longer exists, forgetting hop " ++ toString hop.toNat)
    (.error (.interfaceMissing name), announceDown announce hop (controller.drop hop))
  | (true, controller) =>
    match performAll engine controller [.deleteInterface name] with
    | (.error failure, controller) => (.error (.backend failure), controller)
    | (.ok _, controller) =>
      let controller := (controller.drop hop).note .info ("Interface " ++ name ++ " is down")
      (.ok (), announceDown announce hop controller)

/-- Brings a hop down; the exit hop first gives the system its own name servers back. -/
def deactivate (engine : Engine σ) (hop : HopIndex) (announce : Bool) (controller : Controller σ) :
    Except OperationError Unit × Controller σ :=
  match controller.chain.get? hop with
  | none =>
    (.error (.notActive hop),
      controller.note .warn ("Hop " ++ toString hop.toNat ++ " is not active"))
  | some active =>
    let name := active.tunnel.name
    match performAll engine (controller.note .info ("Deactivating interface " ++ name))
      (if hop = 0 then [.restoreResolvers] else []) with
    | (.error failure, controller) => (.error (.backend failure), controller)
    | (.ok _, controller) => teardown engine hop name announce controller

def rebuild (engine : Engine σ) (now : String) (tunnel : Tunnel) (controller : Controller σ) :
    Except OperationError Unit × Controller σ :=
  match deactivate engine tunnel.hop false controller with
  | (.ok _, controller) => build engine now tunnel controller
  | (.error (.interfaceMissing _), controller) => build engine now tunnel controller
  | (.error error, controller) => (.error error, controller)

/-- Brings a hop up. A hop that is up already changes its peer in place if that suffices, and is
rebuilt otherwise. -/
def activate (engine : Engine σ) (now : String) (tunnel : Tunnel) (controller : Controller σ) :
    Except OperationError Unit × Controller σ :=
  let controller := controller.note .info ("Activating interface " ++ tunnel.name)
  if Naming.maxBytes < Utf8.size tunnel.name then (.error (.interfaceName tunnel.name), controller)
  else
    match controller.chain.get? tunnel.hop with
    | none => build engine now tunnel controller
    | some current =>
      let already := "Hop " ++ toString tunnel.hop.toNat ++ " already up, "
      if tunnel.canReplace current.tunnel && engine.supportsSwitching controller.system then
        switch engine now tunnel (controller.note .info (already ++ "switching server in place"))
      else
        rebuild engine now tunnel
          (controller.note .info (already ++ "server switching not possible, reconnecting"))

/-- Brings hops down one after another, whatever becomes of each. -/
def deactivateEach (engine : Engine σ) (announce : Bool) (controller : Controller σ) :
    List HopIndex → Controller σ
  | [] => controller
  | hop :: rest =>
    match deactivate engine hop announce controller with
    | (.ok _, controller) => deactivateEach engine announce controller rest
    | (.error error, controller) =>
      deactivateEach engine announce
        (controller.note .warn
          ("Failed to deactivate hop " ++ toString hop.toNat ++ ": " ++ error.message)) rest

/-- Brings every hop down, the exit hop first. -/
def deactivateAll (engine : Engine σ) (announce : Bool) (controller : Controller σ) :
    Controller σ :=
  deactivateEach engine announce controller controller.chain.keys

def status (engine : Engine σ) (controller : Controller σ) : StatusReport × Controller σ :=
  match controller.chain.get? 0 with
  | none => (.disconnected, controller)
  | some active =>
    let name := active.tunnel.name
    match controller.ask (engine.hasInterface name) with
    | (false, controller) =>
      (.disconnected, controller.note .warn ("Hop 0 is registered but " ++ name ++ " is gone"))
    | (true, controller) =>
      let report (throughput : Throughput) : StatusReport :=
        ⟨true, some active.tunnel.gatewayIpv4, some active.tunnel.deviceIpv4, some active.since,
          some throughput.sent, some throughput.received⟩
      match controller.ask (engine.throughput name) with
      | (.ok throughput, controller) => (report throughput, controller)
      | (.error failure, controller) =>
        (report ⟨0, 0⟩,
          controller.note .warn ("Unable to read counters of " ++ name ++ ": " ++ failure.message))

/-- Tears everything down if the engine has died under a chain that is not empty; answers whether it
has. -/
def checkLiveness (engine : Engine σ) (controller : Controller σ) : Bool × Controller σ :=
  if controller.chain.isEmpty || engine.isAlive controller.system then (false, controller)
  else
    let controller :=
      controller.note .error
        ("Tunnel engine of " ++ engine.name ++ " backend stopped, tearing down " ++
        toString controller.chain.size ++ " hop(s)")
    (true, deactivateAll engine true (controller.emit .backendFailure))

end Controller

end TunnelChain
