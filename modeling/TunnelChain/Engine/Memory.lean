import TunnelChain.Engine.Basic
import TunnelChain.Table

/-!
A system of tunnels that exists in memory alone. Steps can be made to fail, interfaces can come and
go behind its back, and its engine can die.
-/
namespace TunnelChain

structure Interface where
  peer : Option String
  routes : List String
  isUp : Bool
  throughput : Throughput
deriving DecidableEq, Repr, Inhabited

def Interface.fresh : Interface :=
  ⟨none, [], false, ⟨0, 0⟩⟩

structure Memory where
  interfaces : Table String Interface
  resolvers : Option (String × List String)
  failing : List Step
  isAlive : Bool
  supportsSwitching : Bool

namespace Memory

def fresh : Memory :=
  ⟨Table.empty, none, [], true, true⟩

/-- Changes an interface that a step needs to exist. -/
def alter (memory : Memory) (step : Step) (name : String) (f : Interface → Interface) :
    Except Failure Memory :=
  if memory.interfaces.contains name then
    .ok { memory with interfaces := memory.interfaces.modify name f }
  else .error ⟨step, "no interface named " ++ name⟩

/-- What a call does when it is not made to fail. -/
def apply (memory : Memory) : Call → Except Failure Memory
  | .addInterface tunnel =>
    if memory.interfaces.contains tunnel.name then
      .error ⟨.addInterface, tunnel.name ++ " already exists"⟩
    else .ok { memory with interfaces := memory.interfaces.insert tunnel.name Interface.fresh }
  | .configureInterface tunnel =>
    memory.alter .configureInterface tunnel.name fun interface =>
      { interface with peer := some tunnel.publicKey }
  | .deleteInterface name =>
    if memory.interfaces.contains name then
      .ok { memory with interfaces := memory.interfaces.erase name }
    else .error ⟨.deleteInterface, "no interface named " ++ name⟩
  | .addRoutePrefix name range =>
    memory.alter .addRoutePrefix name fun interface =>
      { interface with routes := interface.routes ++ [range.text] }
  | .updateResolvers name resolvers => .ok { memory with resolvers := some (name, resolvers) }
  | .restoreResolvers => .ok { memory with resolvers := none }
  | .addInterfaceIPs tunnel => memory.alter .addInterfaceIPs tunnel.name id
  | .setMTUAndUp tunnel =>
    memory.alter .setMTUAndUp tunnel.name fun interface => { interface with isUp := true }

def injected (step : Step) : Failure :=
  ⟨step, "injected failure"⟩

def injectedLine (step : Step) : LogLine :=
  ⟨.debug, "Injected failure for " ++ step.name⟩

def perform (call : Call) (memory : Memory) : Outcome Memory (Except Failure Unit) :=
  if call.step ∈ memory.failing then ⟨.error (injected call.step), memory, [injectedLine call.step]⟩
  else
    match memory.apply call with
    | .ok next => ⟨.ok (), next, []⟩
    | .error failure => ⟨.error failure, memory, []⟩

def throughput (name : String) (memory : Memory) : Outcome Memory (Except Failure Throughput) :=
  if Step.getThroughput ∈ memory.failing then
    ⟨.error (injected .getThroughput), memory, [injectedLine .getThroughput]⟩
  else
    match memory.interfaces.get? name with
    | some interface => ⟨.ok interface.throughput, memory, []⟩
    | none => ⟨.error ⟨.getThroughput, "no interface named " ++ name⟩, memory, []⟩

def engine : Engine Memory where
  name := "memory"
  perform := perform
  hasInterface name memory := ⟨memory.interfaces.contains name, memory, []⟩
  throughput := throughput
  supportsSwitching := Memory.supportsSwitching
  isAlive := Memory.isAlive

/-- What can happen to the system from outside. -/
inductive Event where
  | failOn (step : Step)
  | clearFailures
  | setAlive (value : Bool)
  | setSupportsSwitching (value : Bool)
  | setThroughput (name : String) (throughput : Throughput)
  | addStale (name : String)
  | removeExternally (name : String)
deriving DecidableEq, Repr

def happen (memory : Memory) : Event → Memory
  | .failOn step => { memory with failing := step :: memory.failing }
  | .clearFailures => { memory with failing := [] }
  | .setAlive value => { memory with isAlive := value }
  | .setSupportsSwitching value => { memory with supportsSwitching := value }
  | .setThroughput name throughput =>
    { memory with
      interfaces :=
        memory.interfaces.modify name fun interface => { interface with throughput := throughput } }
  | .addStale name => { memory with interfaces := memory.interfaces.insert name Interface.fresh }
  | .removeExternally name => { memory with interfaces := memory.interfaces.erase name }

end Memory

end TunnelChain
