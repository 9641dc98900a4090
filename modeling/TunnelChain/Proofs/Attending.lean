import Mathlib.Data.List.Forall2
import TunnelChain.Proofs.Unhindered
import TunnelChain.Service.Dispatch

/-!
# Tunnels that come and go in order

Where nothing fails and nobody interferes, the tunnels that a service has brought up are a stack: an
activation puts one on top, and a deactivation of the newest takes it off and leaves no trace of it.
-/

namespace TunnelChain

variable {σ : Type}

theorem Controller.Turns.of_note {engine : Engine σ} {before after : Controller σ}
    {xs : List Exchange} {chain : Chain} {said : List HopEvent} {level : Level} {text : String}
    (h : (before.note level text).Turns engine xs chain said after) :
    before.Turns engine xs chain said after :=
  ⟨h.runs, h.chain, h.events⟩

namespace Core

/-- Whether a core outlives an operation with this result. -/
def outlives : Except OperationError Unit → Bool
  | .ok _ => true
  | .error error => !error.isFatal

variable {core : Core σ}

theorem execute_of_stopped (hstopped : core.isRunning = false) (engine : Engine σ) (now : String)
    (request : Request) : core.execute engine now request = (.error .coreStopped, core) :=
  if_neg (ne_true_of_eq_false hstopped)

theorem execute_activate (hrunning : core.isRunning = true) (engine : Engine σ) (now : String)
    (tunnel : Tunnel) :
    ∃ result xs next said,
      Activation (engine.supportsSwitching core.controller.system) now tunnel core.controller.chain
        result xs next said ∧
      core.controller.Turns engine xs next said
        (core.execute engine now (.activate tunnel)).2.controller ∧
      (core.execute engine now (.activate tunnel)).1 = result.map (fun _ => .done) ∧
      (core.execute engine now (.activate tunnel)).2.isRunning = outlives result := by
  obtain ⟨xs, next, said, hactivation, hturns⟩ :=
    Controller.activate_law engine now tunnel core.controller
  refine ⟨_, xs, next, said, hactivation, ?_⟩
  rw [execute, if_pos hrunning, carryOut]
  cases hactivate : core.controller.activate engine now tunnel with
  | mk result after =>
    rw [hactivate] at hturns
    cases result with
    | ok done => exact ⟨hturns, rfl, hrunning⟩
    | error error =>
      dsimp only [survive, outlives]
      cases error.isFatal with
      | true => exact ⟨(hturns.note _ _).note _ _, rfl, rfl⟩
      | false => exact ⟨hturns, rfl, hrunning⟩

theorem execute_deactivate (hrunning : core.isRunning = true) (engine : Engine σ) (now : String)
    (hop : HopIndex) :
    ∃ result xs next said, Teardown hop true core.controller.chain result xs next said ∧
      core.controller.Turns engine xs next said
        (core.execute engine now (.deactivate hop)).2.controller ∧
      (core.execute engine now (.deactivate hop)).2.isRunning = true := by
  obtain ⟨xs, next, said, hteardown, hturns⟩ :=
    Controller.deactivate_law engine hop true core.controller
  refine ⟨_, xs, next, said, hteardown, ?_⟩
  rw [execute, if_pos hrunning]
  exact ⟨hturns, hrunning⟩

end Core

namespace Service

/-- What a service makes of messages, each handled at its own time. -/
def attend (engine : Engine σ) (service : Service σ) : List (String × Parcel) → Reaction (Service σ)
  | [] => ⟨[], [], service⟩
  | (now, parcel) :: rest =>
    let first := react engine now parcel service
    let later := first.state.attend engine rest
    ⟨first.replies ++ later.replies, first.events ++ later.events, later.state⟩

/-- What a reaction comes to: some exchanges, a new chain, and events that are handed on at once. -/
structure Reacts (engine : Engine σ) (service : Service σ) (xs : List Exchange) (next : Chain)
    (said : List HopEvent) (reaction : Reaction (Service σ)) : Prop where
  runs : engine.Runs service.core.controller.system xs reaction.state.core.controller.system
  chain : reaction.state.core.controller.chain = next
  events : reaction.events = said.map HopEvent.toMessage
  taken : reaction.state.core.controller.events = []
  naming : reaction.state.naming = service.naming

/-- The answer to an activation: only a failure is answered. -/
def refusal (hop : HopIndex) : Except OperationError Unit → List DaemonMessage
  | .ok _ => []
  | .error _ => [.disconnected hop]

variable {engine : Engine σ} {service : Service σ} {parcel : Parcel} {now : String}
  {xs : List Exchange} {next : Chain} {said : List HopEvent}

/-- A message that is handled is told of once the events are taken. -/
theorem Reacts.of_handle (htaken : service.core.controller.events = [])
    (hturns : service.core.controller.Turns engine xs next said
      (service.handle engine now parcel).2.core.controller)
    (hnaming : (service.handle engine now parcel).2.naming = service.naming) :
    Reacts engine service xs next said (react engine now parcel service) where
  runs := hturns.runs
  chain := hturns.chain
  events := by
    have hevents := hturns.events
    rw [htaken, List.nil_append] at hevents
    exact congrArg _ hevents
  taken := rfl
  naming := hnaming

theorem handle_eq_activate (hkind : parcel.kind = "activate") (engine : Engine σ) (now : String)
    (service : Service σ) :
    service.handle engine now parcel =
      (service.note .debug "Handling message: activate").activate engine now parcel.body := by
  unfold handle
  rw [hkind]
  rfl

theorem handle_eq_deactivate (hkind : parcel.kind = "deactivate") (engine : Engine σ) (now : String)
    (service : Service σ) :
    service.handle engine now parcel =
      ([], (service.note .debug "Handling message: deactivate").deactivate engine now
        (hopHint parcel.body)) := by
  unfold handle
  rw [hkind]
  rfl

section Handle

variable (hrunning : service.core.isRunning = true)

include hrunning

theorem handle_activate {tunnel : Tunnel} (hkind : parcel.kind = "activate")
    (hbody : Tunnel.ofBody service.naming.name parcel.body = .ok tunnel) (engine : Engine σ)
    (now : String) :
    ∃ result xs next said,
      Activation (engine.supportsSwitching service.core.controller.system) now tunnel
        service.core.controller.chain result xs next said ∧
      service.core.controller.Turns engine xs next said
        (service.handle engine now parcel).2.core.controller ∧
      (service.handle engine now parcel).1 = refusal tunnel.hop result ∧
      (service.handle engine now parcel).2.core.isRunning = Core.outlives result ∧
      (service.handle engine now parcel).2.naming = service.naming := by
  obtain ⟨result, xs, next, said, hactivation, hturns, hanswer, hcore⟩ :=
    Core.execute_activate
      (show (service.note .debug "Handling message: activate").core.isRunning = true from hrunning)
      engine now tunnel
  refine ⟨result, xs, next, said, hactivation, ?_⟩
  have hnoted :
      Tunnel.ofBody (service.note .debug "Handling message: activate").naming.name parcel.body =
        .ok tunnel := hbody
  rw [handle_eq_activate hkind, activate, hnoted]
  dsimp only [request]
  cases hexecute : (service.note .debug "Handling message: activate").core.execute engine now
      (.activate tunnel) with
  | mk answer core =>
    rw [hexecute] at hturns hanswer hcore
    subst hanswer
    cases result with
    | ok done => exact ⟨hturns.of_note, rfl, hcore, rfl⟩
    | error error => exact ⟨(hturns.note _ _).of_note, rfl, hcore, rfl⟩

theorem handle_deactivation (hkind : parcel.kind = "deactivate") (engine : Engine σ)
    (now : String) :
    ∃ result xs next said,
      Teardown (hopHint parcel.body) true service.core.controller.chain result xs next said ∧
      service.core.controller.Turns engine xs next said
        (service.handle engine now parcel).2.core.controller ∧
      (service.handle engine now parcel).1 = [] ∧
      (service.handle engine now parcel).2.core.isRunning = true ∧
      (service.handle engine now parcel).2.naming = service.naming := by
  obtain ⟨result, xs, next, said, hteardown, hturns, hcore⟩ :=
    Core.execute_deactivate
      (show (service.note .debug "Handling message: deactivate").core.isRunning =
        true from hrunning)
      engine now (hopHint parcel.body)
  refine ⟨result, xs, next, said, hteardown, ?_⟩
  rw [handle_eq_deactivate hkind, deactivate]
  dsimp only [request]
  cases hexecute : (service.note .debug "Handling message: deactivate").core.execute engine now
      (.deactivate (hopHint parcel.body)) with
  | mk answer core =>
    rw [hexecute] at hturns hcore
    cases answer with
    | ok answered => exact ⟨hturns.of_note, rfl, hcore, rfl⟩
    | error error => exact ⟨(hturns.note _ _).of_note, rfl, hcore, rfl⟩

end Handle

end Service

section Stack

variable {up rest : List Tunnel} {tunnel : Tunnel} {naming : Naming}

theorem find?_hop_eq_none {hop : HopIndex} (h : hop ∉ up.map Tunnel.hop) :
    up.find? (·.hop = hop) = none := by
  rw [List.find?_eq_none]
  intro tunnel htunnel hhop
  exact h (List.mem_map.mpr ⟨tunnel, htunnel, of_decide_eq_true hhop⟩)

theorem find?_hop_of_mem (hnodup : (up.map Tunnel.hop).Nodup) (h : tunnel ∈ up) :
    up.find? (·.hop = tunnel.hop) = some tunnel := by
  induction up with
  | nil => cases h
  | cons first rest ih =>
    obtain ⟨hnew, hrest⟩ := List.nodup_cons.mp hnodup
    obtain rfl | htunnel := List.mem_cons.mp h
    · exact List.find?_cons_of_pos (by simp)
    · have hne : first.hop ≠ tunnel.hop := fun heq =>
        hnew (List.mem_map.mpr ⟨tunnel, htunnel, heq.symm⟩)
      rw [List.find?_cons_of_neg (by simpa using hne), ih hrest htunnel]

/-- Where tunnels have the names of their hops, one can be found by either. -/
theorem find?_name (hnamed : ∀ tunnel ∈ up, tunnel.name = naming.name tunnel.hop) (hop : HopIndex) :
    up.find? (·.name = naming.name hop) = up.find? (·.hop = hop) := by
  induction up with
  | nil => rfl
  | cons tunnel rest ih =>
    obtain ⟨htunnel, hrest⟩ := List.forall_mem_cons.mp hnamed
    have hiff : tunnel.name = naming.name hop ↔ tunnel.hop = hop := by
      rw [htunnel, naming.name_eq_iff]
    rw [List.find?_cons, List.find?_cons, ih hrest]
    simp only [hiff]

/-- Whether exactly the hops of these tunnels are in the chain. -/
def Chain.Lists (up : List Tunnel) (chain : Chain) : Prop :=
  ∀ hop, (chain.get? hop).map ActiveHop.tunnel = up.find? (·.hop = hop)

theorem Chain.Lists.put {chain : Chain} (h : chain.Lists up) (now : String) :
    (chain.put ⟨tunnel, now⟩).Lists (tunnel :: up) := by
  intro hop
  rw [Chain.put, Table.get?_insert]
  by_cases hhop : hop = tunnel.hop
  · rw [if_pos hhop, List.find?_cons_of_pos (by simp [hhop])]
    rfl
  · rw [if_neg hhop, List.find?_cons_of_neg (by simp [Ne.symm hhop]), h]

theorem Chain.Lists.erase {chain : Chain} (h : chain.Lists (tunnel :: rest))
    (hnew : tunnel.hop ∉ rest.map Tunnel.hop) :
    Chain.Lists rest (Table.erase chain tunnel.hop) := by
  intro hop
  rw [Table.get?_erase]
  by_cases hhop : hop = tunnel.hop
  · rw [if_pos hhop, hhop, find?_hop_eq_none hnew]
    rfl
  · rw [if_neg hhop, h, List.find?_cons_of_neg (by simp [Ne.symm hhop])]

/-- Whether exactly the interfaces of these tunnels exist, with the name servers of the exit hop. -/
structure Memory.Bears (memory : Memory) (up : List Tunnel) : Prop where
  interfaces : ∀ name, memory.interfaces.get? name = (up.find? (·.name = name)).map Tunnel.interface
  resolvers : memory.resolvers = (up.find? (·.hop = 0)).map fun exit => (exit.name, exit.resolvers)

namespace Memory.Bears

variable {memory next : Memory}

theorem build (h : memory.Bears up)
    (hruns : Memory.engine.Runs memory
      (.look tunnel.name false :: granted tunnel.buildScript) next) :
    next.Bears (tunnel :: up) where
  interfaces name := by
    rw [Memory.get?_of_runs hruns]
    change interfaceAfter name (granted tunnel.buildScript) _ = _
    by_cases hname : tunnel.name = name
    · subst hname
      rw [interfaceAfter_buildScript, List.find?_cons_of_pos (by simp)]
      rfl
    · have hminds : ∀ x ∈ granted tunnel.buildScript, x.Minds tunnel.name := fun x hx =>
        (concerns_granted tunnel.concerns_buildScript x hx).minds
      rw [interfaceAfter_of_minds hname hminds, List.find?_cons_of_neg (by simp [hname]),
        h.interfaces]
      rfl
  resolvers := by
    rw [Memory.resolvers_of_runs hruns]
    change resolversAfter (granted tunnel.buildScript) _ = _
    rw [resolversAfter_buildScript]
    by_cases hexit : tunnel.hop = 0
    · rw [if_pos hexit, List.find?_cons_of_pos (by simp [hexit])]
      rfl
    · rw [if_neg hexit, List.find?_cons_of_neg (by simp [hexit]), h.resolvers]
      rfl

theorem look {name : String} {found : Bool} (h : memory.Bears up)
    (hruns : Memory.engine.Runs memory [.look name found] next) : next.Bears up where
  interfaces other := (Memory.get?_of_runs hruns other).trans (h.interfaces other)
  resolvers := (Memory.resolvers_of_runs hruns).trans h.resolvers

theorem remove (h : memory.Bears (tunnel :: rest))
    (hnamed : ∀ other ∈ tunnel :: rest, other.name = naming.name other.hop)
    (hnew : tunnel.hop ∉ rest.map Tunnel.hop)
    (hruns : Memory.engine.Runs memory (granted (restoring tunnel.hop) ++ [.look tunnel.name true,
      .call (.deleteInterface tunnel.name) (.ok ())]) next) : next.Bears rest where
  interfaces name := by
    obtain ⟨hname, hrest⟩ := List.forall_mem_cons.mp hnamed
    rw [Memory.get?_of_runs hruns, interfaceAfter_append, interfaceAfter_restoring]
    by_cases hother : tunnel.name = name
    · subst hother
      rw [hname, find?_name hrest, find?_hop_eq_none hnew]
      simp [interfaceAfter, Exchange.onInterface, Call.interface?, Call.onInterface]
    · rw [h.interfaces, List.find?_cons_of_neg (by simp [hother])]
      simp [interfaceAfter, Exchange.onInterface, Call.interface?, hother]
  resolvers := by
    rw [Memory.resolvers_of_runs hruns, resolversAfter_append, resolversAfter_restoring]
    change (if tunnel.hop = 0 then none else memory.resolvers) = _
    by_cases hexit : tunnel.hop = 0
    · rw [hexit] at hnew
      rw [if_pos hexit, find?_hop_eq_none hnew]
      rfl
    · rw [if_neg hexit, h.resolvers, List.find?_cons_of_neg (by simp [hexit])]

end Memory.Bears

/-- Whether each interface was created over those of the tunnels below its own, and no others. -/
def Laid (memory : Memory) (up : List Tunnel) (xs : List Exchange) : Prop :=
  ∀ before created answer after, xs = before ++ .call (.addInterface created) answer :: after →
    ∃ below middle, created :: below <:+ up ∧ Memory.engine.Runs memory before middle ∧
      middle.Bears below

theorem Laid.build {memory middle next : Memory} {xs : List Exchange} (h : Laid memory up xs)
    (hdone : Memory.engine.Runs memory xs middle) (hbears : middle.Bears up)
    (hruns : Memory.engine.Runs middle
      (.look tunnel.name false :: granted tunnel.buildScript) next) :
    Laid memory (tunnel :: up) (xs ++ .look tunnel.name false :: granted tunnel.buildScript) := by
  intro before created answer after heq
  obtain ⟨ys, rfl, hys⟩ | ⟨ys, rfl, hys⟩ := List.append_eq_append_iff.mp heq
  · -- The call is one of the new ones, and only the first of these creates an interface.
    obtain - | ⟨looked, zs⟩ := ys
    · cases hys
    · obtain ⟨rfl, hzs⟩ := List.cons.inj hys
      obtain - | ⟨first, zs⟩ := zs
      · obtain ⟨hcreated, -⟩ := List.cons.inj hzs
        cases hcreated
        obtain ⟨seen, hlook, -⟩ := hruns.split_cons
        exact ⟨up, seen, List.suffix_rfl, hdone.append hlook, hbears.look hlook⟩
      · obtain ⟨-, hsetup⟩ := List.cons.inj hzs
        have hmem : Exchange.call (.addInterface created) answer ∈ granted tunnel.setupScript := by
          rw [show granted tunnel.setupScript = _ from hsetup]
          exact List.mem_append_right _ List.mem_cons_self
        obtain ⟨call, hcall, hcreated⟩ := List.mem_map.mp hmem
        cases hcreated
        exact (Tunnel.isChange_of_mem hcall).elim
  · obtain - | ⟨last, zs⟩ := ys
    · cases hys
    · obtain ⟨rfl, -⟩ := List.cons.inj hys
      obtain ⟨below, seen, hsuffix, hseen⟩ := h before created answer zs rfl
      exact ⟨below, seen, hsuffix.trans (List.suffix_cons _ _), hseen⟩

end Stack

namespace Service

/-- Whether exactly these tunnels are up, the newest first, and no event waits to be told. -/
structure Stacked (memory : Memory) (up : List Tunnel) (service : Service (Transcript Memory)) :
    Prop where
  running : service.core.isRunning = true
  taken : service.core.controller.events = []
  named : ∀ tunnel ∈ up, tunnel.name = service.naming.name tunnel.hop
  nodup : (up.map Tunnel.hop).Nodup
  chain : service.core.controller.chain.Lists up
  system : service.core.controller.system.system.Bears up
  runs : Memory.engine.Runs memory service.core.controller.system.exchanges
    service.core.controller.system.system

namespace Stacked

variable {memory : Memory} {up rest : List Tunnel} {service : Service (Transcript Memory)}
  {tunnel : Tunnel} {parcel : Parcel}

theorem failing (h : service.Stacked memory up) (hfailing : memory.failing = []) :
    service.core.controller.system.system.failing = [] :=
  Memory.failing_of_runs h.runs hfailing

/-- A tunnel that is activated comes on top. -/
theorem push (h : service.Stacked memory up) (hfailing : memory.failing = [])
    (hkind : parcel.kind = "activate")
    (hbody : Tunnel.ofBody service.naming.name parcel.body = .ok tunnel)
    (hshort : Utf8.size tunnel.name ≤ Naming.maxBytes) (hnew : tunnel.hop ∉ up.map Tunnel.hop)
    (now : String) :
    ∃ reaction, react Memory.engine.transcribed now parcel service = reaction ∧
      reaction.state.Stacked memory (tunnel :: up) ∧ reaction.replies = [] ∧
      reaction.events = [.connected tunnel.hop] ∧ reaction.state.naming = service.naming ∧
      (Laid memory up service.core.controller.system.exchanges →
        Laid memory (tunnel :: up) reaction.state.core.controller.system.exchanges) := by
  have hname := Tunnel.name_of_ofBody hbody
  have hdown := find?_hop_eq_none hnew
  have hget : service.core.controller.chain.get? tunnel.hop = none := by
    rw [← Option.map_eq_none_iff, h.chain, hdown]
  have habsent : service.core.controller.system.system.interfaces.get? tunnel.name = none := by
    rw [h.system.interfaces, hname, find?_name h.named, hdown]
    rfl
  obtain ⟨result, xs, next, said, hactivation, hturns, hreplies, hrunning, hnaming⟩ :=
    handle_activate h.running hkind hbody Memory.engine.transcribed now
  have hreacts := Reacts.of_handle h.taken hturns hnaming
  obtain ⟨hruns, hexchanges, -⟩ := hreacts.runs.of_transcribed
  have hbuild := hactivation.of_down hshort hget
  obtain ⟨rfl, rfl, rfl, rfl⟩ := hbuild.of_absent hruns (h.failing hfailing) habsent
  refine ⟨_, rfl, ⟨hrunning, hreacts.taken, ?_, ?_, ?_, h.system.build hruns, ?_⟩, hreplies,
    hreacts.events, hnaming, fun hlaid => ?_⟩
  · rw [hreacts.naming]
    exact List.forall_mem_cons.mpr ⟨hname, h.named⟩
  · exact List.nodup_cons.mpr ⟨hnew, h.nodup⟩
  · rw [hreacts.chain]
    exact h.chain.put now
  · rw [hexchanges]
    exact h.runs.append hruns
  · rw [hexchanges]
    exact hlaid.build h.runs h.system hruns

/-- The newest tunnel comes off when its hop is deactivated. -/
theorem pop (h : service.Stacked memory (tunnel :: rest)) (hfailing : memory.failing = [])
    (hkind : parcel.kind = "deactivate") (hhop : hopHint parcel.body = tunnel.hop) (now : String) :
    ∃ reaction, react Memory.engine.transcribed now parcel service = reaction ∧
      reaction.state.Stacked memory rest ∧ reaction.replies = [] ∧
      reaction.events = [.disconnected tunnel.hop] ∧ reaction.state.naming = service.naming := by
  obtain ⟨hnew, hnodup⟩ := List.nodup_cons.mp h.nodup
  obtain ⟨active, hup, rfl⟩ : ∃ active, service.core.controller.chain.get? tunnel.hop =
      some active ∧
      active.tunnel = tunnel := by
    rw [← Option.map_eq_some_iff, h.chain, List.find?_cons_of_pos (by simp)]
  have hpresent :
      (service.core.controller.system.system.interfaces.get? active.tunnel.name).isSome = true := by
    rw [h.system.interfaces, List.find?_cons_of_pos (by simp)]
    rfl
  obtain ⟨result, xs, next, said, hteardown, hturns, hreplies, hrunning, hnaming⟩ :=
    handle_deactivation h.running hkind Memory.engine.transcribed now
  rw [hhop] at hteardown
  have hreacts := Reacts.of_handle h.taken hturns hnaming
  obtain ⟨hruns, hexchanges, -⟩ := hreacts.runs.of_transcribed
  obtain ⟨rfl, rfl, rfl, rfl⟩ := hteardown.of_present hruns (h.failing hfailing) hup hpresent
  refine ⟨_, rfl, ⟨hrunning, hreacts.taken, ?_, hnodup, ?_, h.system.remove h.named hnew hruns, ?_⟩,
    hreplies, hreacts.events, hnaming⟩
  · rw [hreacts.naming]
    exact (List.forall_mem_cons.mp h.named).2
  · rw [hreacts.chain]
    exact h.chain.erase hnew
  · rw [hexchanges]
    exact h.runs.append hruns

/-- Tunnels that are activated one after another come on top in this order. -/
theorem pushAll (h : service.Stacked memory up) (hfailing : memory.failing = []) {naming : Naming}
    (hnaming : service.naming = naming) {arrivals : List (String × Parcel)} {tunnels : List Tunnel}
    (harrivals : List.Forall₂ (fun arrival tunnel => arrival.2.kind = "activate" ∧
      Tunnel.ofBody naming.name arrival.2.body = .ok tunnel) arrivals tunnels)
    (hshort : ∀ tunnel ∈ tunnels, Utf8.size tunnel.name ≤ Naming.maxBytes)
    (hnodup : ((tunnels.reverse ++ up).map Tunnel.hop).Nodup)
    (hlaid : Laid memory up service.core.controller.system.exchanges) :
    ∃ reaction, service.attend Memory.engine.transcribed arrivals = reaction ∧
      reaction.state.Stacked memory (tunnels.reverse ++ up) ∧ reaction.replies = [] ∧
      reaction.events = tunnels.map (.connected ·.hop) ∧ reaction.state.naming = naming ∧
      Laid memory (tunnels.reverse ++ up) reaction.state.core.controller.system.exchanges := by
  induction harrivals generalizing up service with
  | nil => exact ⟨_, rfl, h, rfl, rfl, hnaming, hlaid⟩
  | @cons arrival tunnel arrivals tunnels harrival hrest ih =>
    obtain ⟨now, parcel⟩ := arrival
    obtain ⟨hkind, hbody⟩ := harrival
    obtain ⟨hfits, hshort⟩ := List.forall_mem_cons.mp hshort
    rw [List.reverse_cons, List.append_assoc, List.singleton_append] at hnodup ⊢
    have hnew : tunnel.hop ∉ up.map Tunnel.hop := by
      rw [List.map_append, List.map_cons] at hnodup
      exact (List.nodup_cons.mp (List.nodup_append.mp hnodup).2.1).1
    rw [← hnaming] at hbody
    obtain ⟨first, hfirst, hstacked, hreplies, hevents, hkept, hlaid'⟩ :=
      h.push hfailing hkind hbody hfits hnew now
    obtain ⟨later, hlater, hstacked', hreplies', hevents', hnaming', hlaid''⟩ :=
      ih hstacked (hkept.trans hnaming) hshort hnodup (hlaid' hlaid)
    refine ⟨_, rfl, ?_⟩
    rw [attend, hfirst]
    dsimp only
    rw [hlater, hreplies, hreplies', hevents, hevents']
    exact ⟨hstacked', rfl, rfl, hnaming', hlaid''⟩

/-- All tunnels come off when their hops are deactivated, the newest first. -/
theorem popAll {tunnels : List Tunnel} (h : service.Stacked memory tunnels)
    (hfailing : memory.failing = []) {arrivals : List (String × Parcel)}
    (harrivals : List.Forall₂ (fun arrival tunnel => arrival.2.kind = "deactivate" ∧
      hopHint arrival.2.body = tunnel.hop) arrivals tunnels) :
    ∃ reaction, service.attend Memory.engine.transcribed arrivals = reaction ∧
      reaction.state.Stacked memory [] ∧ reaction.replies = [] ∧
      reaction.events = tunnels.map (.disconnected ·.hop) := by
  induction harrivals generalizing service with
  | nil => exact ⟨_, rfl, h, rfl, rfl⟩
  | @cons arrival tunnel arrivals tunnels harrival hrest ih =>
    obtain ⟨now, parcel⟩ := arrival
    obtain ⟨hkind, hhop⟩ := harrival
    obtain ⟨first, hfirst, hstacked, hreplies, hevents, -⟩ := h.pop hfailing hkind hhop now
    obtain ⟨later, hlater, hstacked', hreplies', hevents'⟩ := ih hstacked
    refine ⟨_, rfl, ?_⟩
    rw [attend, hfirst]
    dsimp only
    rw [hlater, hreplies, hreplies', hevents, hevents']
    exact ⟨hstacked', rfl, rfl⟩

end Stacked

end Service

end TunnelChain
