import TunnelChain.Control.Controller

/-!
The core of a daemon: the one place where requests are carried out, one after another. It stops for
good at a shutdown, after an error that it must not survive, or when nobody can send requests any
more; then every request is refused.
-/
namespace TunnelChain

inductive Request where
  | activate (tunnel : Tunnel)
  | deactivate (hop : HopIndex)
  | status
  | shutdown
deriving DecidableEq, Repr

inductive Answer where
  | done
  | report (report : StatusReport)
deriving DecidableEq, Repr

/-- `fatal` is the reason of a stop that was not asked for. -/
structure Core (σ : Type) where
  controller : Controller σ
  isRunning : Bool
  fatal : Option String

namespace Core

variable {σ : Type}

def note (core : Core σ) (level : Level) (text : String) : Core σ :=
  { core with controller := core.controller.note level text }

def halt (core : Core σ) : Core σ :=
  { core with isRunning := false }.note .info "Daemon core stopped"

/-- Starts a core on a system, unless an interface that was left over cannot be removed. -/
def start (engine : Engine σ) (naming : Naming) (system : σ) :
    Except OperationError Unit × Core σ :=
  let controller :=
    (Controller.fresh system).note .info ("Starting daemon core with " ++ engine.summary)
  match controller.sweep engine naming with
  | (.ok _, controller) => (.ok (), (Core.mk controller true none).note .info "Daemon core running")
  | (.error error, controller) => (.error error, ⟨controller, false, none⟩)

/-- Stops after an error that must not be survived. -/
def survive (core : Core σ) (error : OperationError) : Core σ :=
  if error.isFatal then
    ({ core with fatal := some error.message }.note .error ("Fatal: " ++ error.message)).halt
  else core

def carryOut (engine : Engine σ) (now : String) (core : Core σ) :
    Request → Except OperationError Answer × Core σ
  | .activate tunnel =>
    match core.controller.activate engine now tunnel with
    | (.ok _, controller) => (.ok .done, { core with controller })
    | (.error error, controller) => (.error error, { core with controller }.survive error)
  | .deactivate hop =>
    let (result, controller) := core.controller.deactivate engine hop true
    (result.map fun _ => .done, { core with controller })
  | .status =>
    let (report, controller) := core.controller.status engine
    (.ok (.report report), { core with controller })
  | .shutdown =>
    (.ok .done, { core with controller := core.controller.deactivateAll engine true }.halt)

def execute (engine : Engine σ) (now : String) (core : Core σ) (request : Request) :
    Except OperationError Answer × Core σ :=
  if core.isRunning then core.carryOut engine now request else (.error .coreStopped, core)

def poll (engine : Engine σ) (core : Core σ) : Core σ :=
  if core.isRunning then
    { core with controller := (core.controller.checkLiveness engine).2 } else core

/-- Nobody can send requests any more: every hop is brought down, and nobody is told. -/
def abandon (engine : Engine σ) (core : Core σ) : Core σ :=
  if core.isRunning then
    { core with controller := core.controller.deactivateAll engine false }.halt else core

def takeEvents (core : Core σ) : List HopEvent × Core σ :=
  (core.controller.events, { core with controller := { core.controller with events := [] } })

end Core

end TunnelChain
