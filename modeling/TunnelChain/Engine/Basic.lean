import TunnelChain.Hop.Tunnel
import TunnelChain.Log.Line

/-!
What a system must offer for tunnels to be built on it. Each call may fail; a call, and also a
question, may leave the system in another state and write to the log.
-/
namespace TunnelChain

/-- The kinds of things that can fail. -/
inductive Step where
  | addInterface
  | configureInterface
  | deleteInterface
  | addRoutePrefix
  | getThroughput
  | updateResolvers
  | restoreResolvers
  | addInterfaceIPs
  | setMTUAndUp
deriving DecidableEq, Repr, Inhabited

namespace Step

def name : Step → String
  | .addInterface => "addInterface"
  | .configureInterface => "configureInterface"
  | .deleteInterface => "deleteInterface"
  | .addRoutePrefix => "addRoutePrefix"
  | .getThroughput => "getThroughput"
  | .updateResolvers => "updateResolvers"
  | .restoreResolvers => "restoreResolvers"
  | .addInterfaceIPs => "addInterfaceIPs"
  | .setMTUAndUp => "setMTUAndUp"

def all : List Step :=
  [.addInterface, .configureInterface, .deleteInterface, .addRoutePrefix, .getThroughput,
    .updateResolvers, .restoreResolvers, .addInterfaceIPs, .setMTUAndUp]

end Step

structure Failure where
  step : Step
  reason : String
deriving DecidableEq, Repr, Inhabited

def Failure.message (failure : Failure) : String :=
  failure.step.name ++ " failed: " ++ failure.reason

/-- A change asked of the system. -/
inductive Call where
  | addInterface (tunnel : Tunnel)
  | configureInterface (tunnel : Tunnel)
  | deleteInterface (name : String)
  | addRoutePrefix (name : String) (range : AddressRange)
  | updateResolvers (name : String) (resolvers : List String)
  | restoreResolvers
  | addInterfaceIPs (tunnel : Tunnel)
  | setMTUAndUp (tunnel : Tunnel)
deriving DecidableEq, Repr

namespace Call

def step : Call → Step
  | .addInterface _ => .addInterface
  | .configureInterface _ => .configureInterface
  | .deleteInterface _ => .deleteInterface
  | .addRoutePrefix .. => .addRoutePrefix
  | .updateResolvers .. => .updateResolvers
  | .restoreResolvers => .restoreResolvers
  | .addInterfaceIPs _ => .addInterfaceIPs
  | .setMTUAndUp _ => .setMTUAndUp

/-- The interface that a call names, if it names one. -/
def interface? : Call → Option String
  | .addInterface tunnel => some tunnel.name
  | .configureInterface tunnel => some tunnel.name
  | .deleteInterface name => some name
  | .addRoutePrefix name _ => some name
  | .updateResolvers name _ => some name
  | .restoreResolvers => none
  | .addInterfaceIPs tunnel => some tunnel.name
  | .setMTUAndUp tunnel => some tunnel.name

end Call

/-- The bytes that went through an interface. -/
structure Throughput where
  sent : UInt64
  received : UInt64
deriving DecidableEq, Repr, Inhabited

/-- What asking something of a system in state `σ` leaves: the answer, the system, and the log lines
written. -/
structure Outcome (σ α : Type) where
  answer : α
  system : σ
  log : List LogLine
deriving Repr

structure Engine (σ : Type) where
  name : String
  perform : Call → σ → Outcome σ (Except Failure Unit)
  hasInterface : String → σ → Outcome σ Bool
  throughput : String → σ → Outcome σ (Except Failure Throughput)
  supportsSwitching : σ → Bool
  isAlive : σ → Bool

/-- A system together with the calls asked of it, oldest first. -/
structure Recorded (σ : Type) where
  system : σ
  calls : List Call
deriving Repr

namespace Outcome

variable {σ τ α β : Type}

def mapSystem (f : σ → τ) (outcome : Outcome σ α) : Outcome τ α :=
  ⟨outcome.answer, f outcome.system, outcome.log⟩

def map (f : α → β) (outcome : Outcome σ α) : Outcome σ β :=
  ⟨f outcome.answer, outcome.system, outcome.log⟩

end Outcome

namespace Engine

variable {σ : Type}

def summary (engine : Engine σ) : String :=
  "Backends \x7b tunnel: " ++ Quoted.quote engine.name ++ ", .. \x7d"

/-- The engine that also records every call, whether it fails or not. -/
def recorded (engine : Engine σ) : Engine (Recorded σ) where
  name := engine.name
  perform call state :=
    (engine.perform call state.system).mapSystem fun system => ⟨system, state.calls ++ [call]⟩
  hasInterface name state :=
    (engine.hasInterface name state.system).mapSystem fun system => ⟨system, state.calls⟩
  throughput name state :=
    (engine.throughput name state.system).mapSystem fun system => ⟨system, state.calls⟩
  supportsSwitching state := engine.supportsSwitching state.system
  isAlive state := engine.isAlive state.system

end Engine

end TunnelChain
