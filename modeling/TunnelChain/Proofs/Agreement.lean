import Mathlib.Logic.Relation
import TunnelChain.Proofs.Operation
import TunnelChain.Proofs.Provenance

/-!
# The chain and the system agree

Whatever fails half way, a hop is in the chain only while its own interface exists, is up and has
the peer of its tunnel. What carries the invariant is that no two hops share an interface name, so
that an operation on one hop cannot touch the interface of another.
-/

namespace TunnelChain

/-- A hop that is up runs through its own interface. -/
structure Carried (naming : Naming) (interfaces : String → Option Interface) (hop : HopIndex)
    (active : ActiveHop) : Prop where
  hop_eq : active.tunnel.hop = hop
  name_eq : active.tunnel.name = naming.name hop
  short : Utf8.size active.tunnel.name ≤ Naming.maxBytes
  interface : ∃ interface, interfaces active.tunnel.name = some interface ∧
    interface.isUp = true ∧ interface.peer = some active.tunnel.publicKey

def Carries (naming : Naming) (interfaces : String → Option Interface) (chain : Chain) : Prop :=
  ∀ hop active, chain.get? hop = some active → Carried naming interfaces hop active

variable {naming : Naming} {interfaces : String → Option Interface} {chain next : Chain}
  {xs : List Exchange} {said : List HopEvent} {result : Except OperationError Unit}

theorem Carried.of_eq {others : String → Option Interface} {hop : HopIndex} {active : ActiveHop}
    (h : Carried naming interfaces hop active)
    (hsame : others (naming.name hop) = interfaces (naming.name hop)) :
    Carried naming others hop active := by
  refine ⟨h.hop_eq, h.name_eq, h.short, ?_⟩
  have hinterface := h.interface
  rw [h.name_eq] at hinterface ⊢
  rwa [hsame]

theorem Carries.named (h : Carries naming interfaces chain) : chain.Named naming :=
  fun hop active hactive => (h hop active hactive).name_eq

theorem Carries.teardown {hop : HopIndex} {announce : Bool}
    (hcarries : Carries naming interfaces chain)
    (h : Teardown hop announce chain result xs next said) :
    Carries naming (fun name => interfaceAfter name xs (interfaces name)) next := by
  intro other active hactive
  obtain ⟨hbefore, hinterface⟩ := h.kept hcarries.named hactive
  exact (hcarries other active hbefore).of_eq (hinterface _)

theorem Carries.activation {switching : Bool} {now : String} {tunnel : Tunnel}
    (hcarries : Carries naming interfaces chain) (hname : tunnel.name = naming.name tunnel.hop)
    (h : Activation switching now tunnel chain result xs next said) :
    Carries naming (fun name => interfaceAfter name xs (interfaces name)) next := by
  intro hop active hactive
  cases h.origin hname hcarries.named hactive with
  | kept hbefore hinterface => exact (hcarries hop active hbefore).of_eq (hinterface _)
  | built hhop hshort hinterface =>
    subst hhop
    refine ⟨rfl, hname, hshort, tunnel.interface, ?_, rfl, rfl⟩
    change interfaceAfter tunnel.name xs (interfaces tunnel.name) = some tunnel.interface
    rw [hname, hinterface]
  | @switched current hhop hshort hup hswitch hresult hinterface =>
    subst hhop
    obtain ⟨interface, hbefore, hisUp, -⟩ := (hcarries _ current hup).interface
    rw [(hcarries _ current hup).name_eq] at hbefore
    refine ⟨rfl, hname, hshort, { interface with peer := some tunnel.publicKey }, ?_, hisUp, rfl⟩
    change interfaceAfter tunnel.name xs (interfaces tunnel.name) = _
    rw [hname, hinterface, hbefore]
    rfl

namespace Controller

def started (naming : Naming) (memory : Memory) : Controller Memory :=
  (sweep Memory.engine naming (fresh memory)).2

/-- One step of a controller and its surroundings: an operation, or an event that spares the
interfaces of the hops that are up. -/
inductive Evolves (naming : Naming) : Controller Memory → Controller Memory → Prop where
  | operation (controller : Controller Memory) (operation : Operation) :
      Evolves naming controller (controller.operate Memory.engine naming operation)
  | event {controller : Controller Memory} (event : Memory.Event)
      (hspared : ∀ hop, controller.chain.contains hop = true →
        event.interface? ≠ some (naming.name hop)) :
      Evolves naming controller { controller with system := controller.system.happen event }

def Agrees (naming : Naming) (controller : Controller Memory) : Prop :=
  Carries naming controller.system.interfaces.get? controller.chain

variable {controller after : Controller Memory}

theorem Agrees.of_turns (hturns : Turns Memory.engine controller xs next said after)
    (h : Carries naming
      (fun name => interfaceAfter name xs (controller.system.interfaces.get? name))
      next) : Agrees naming after := by
  have hview : after.system.interfaces.get? =
      fun name => interfaceAfter name xs (controller.system.interfaces.get? name) :=
    funext (Memory.get?_of_runs hturns.runs)
  rw [Agrees, hview, hturns.chain]
  exact h

theorem Agrees.deactivate (h : Agrees naming controller) (hop : HopIndex) (announce : Bool) :
    Agrees naming (deactivate Memory.engine hop announce controller).2 := by
  obtain ⟨xs, next, said, hteardown, hturns⟩ := deactivate_law Memory.engine hop announce controller
  exact Agrees.of_turns hturns (Carries.teardown h hteardown)

theorem Agrees.activate (h : Agrees naming controller) (now : String) {tunnel : Tunnel}
    (hname : tunnel.name = naming.name tunnel.hop) :
    Agrees naming (activate Memory.engine now tunnel controller).2 := by
  obtain ⟨xs, next, said, hactivation, hturns⟩ := activate_law Memory.engine now tunnel controller
  exact Agrees.of_turns hturns (Carries.activation h hname hactivation)

theorem agrees_started (naming : Naming) (memory : Memory) :
    Agrees naming (started naming memory) := by
  obtain ⟨xs, hclear, hturns⟩ :=
    (Turns.start Memory.engine (fresh memory)).removeStale (naming.name 0)
  refine Agrees.of_turns hturns fun hop active hactive => ?_
  rw [fresh, Table.get?_empty] at hactive
  cases hactive

theorem Agrees.operate (h : Agrees naming controller) (operation : Operation) :
    Agrees naming (controller.operate Memory.engine naming operation) := by
  refine operate_induction (fun _ _ _ h => h) (fun _ h => h)
    (fun _ hop announce h => h.deactivate hop announce) h ?_
  intro now body tunnel _ hbody
  exact h.activate now (Tunnel.name_of_ofBody hbody)

theorem Agrees.event (h : Agrees naming controller) {event : Memory.Event}
    (hspared : ∀ hop, controller.chain.contains hop = true →
      event.interface? ≠ some (naming.name hop)) :
    Agrees naming { controller with system := controller.system.happen event } := by
  intro hop active hactive
  obtain ⟨hhop, hname, hshort, interface, hinterface, hisUp, hpeer⟩ := h hop active hactive
  have hup := hspared hop (Table.contains_iff.mpr ⟨active, hactive⟩)
  rw [← hname] at hup
  obtain ⟨throughput, hlater⟩ := Memory.get?_happen hup hinterface
  exact ⟨hhop, hname, hshort, { interface with throughput }, hlater, hisUp, hpeer⟩

theorem Agrees.evolves (h : Agrees naming controller) (hstep : Evolves naming controller after) :
    Agrees naming after := by
  cases hstep with
  | operation operation => exact h.operate operation
  | event event hspared => exact h.event hspared

theorem Agrees.connected_status_iff (h : Agrees naming controller) :
    (status Memory.engine controller).1.connected = true ↔ controller.chain.contains 0 = true := by
  rw [Table.contains_iff]
  unfold status
  cases hup : controller.chain.get? 0 with
  | none => simp [StatusReport.disconnected]
  | some active =>
    obtain ⟨interface, hinterface, -, -⟩ := (h 0 active hup).interface
    have hexists : controller.system.interfaces.contains active.tunnel.name = true :=
      Table.contains_iff.mpr ⟨interface, hinterface⟩
    have hask : controller.ask (Memory.engine.hasInterface active.tunnel.name) =
        (true, { controller with log := controller.log ++ [] }) := by
      simp only [ask, Memory.engine, hexists]
    dsimp only
    rw [hask]
    dsimp only
    split <;> simp

/-- **The chain and the system agree** in every state that can be reached: each hop that is up has
its own name and an interface of that name, which is up and has the tunnel's peer. So the exit hop
is reported as connected exactly while it is in the chain. -/
theorem agrees_of_reachable {memory : Memory}
    (h : Relation.ReflTransGen (Evolves naming) (started naming memory) controller) :
    controller.Agrees naming ∧
      ((status Memory.engine controller).1.connected = true ↔
        controller.chain.contains 0 = true) := by
  have hagrees : controller.Agrees naming := by
    induction h with
    | refl => exact agrees_started naming memory
    | tail _ hstep ih => exact ih.evolves hstep
  exact ⟨hagrees, hagrees.connected_status_iff⟩

/-- A relay that came up after the exit hop was lost half way through a rebuild. -/
def afterLostRebuild : Controller Memory :=
  let engine := Memory.engine
  let naming : Naming := ⟨"hl"⟩
  let up :=
    (started naming Memory.fresh).operate engine naming (.activate "then" (plainBody 0 "AA=="))
  let failing := { up with system := up.system.happen (.failOn .addInterfaceIPs) }
  let lost := failing.operate engine naming (.activate "later" (plainBody 0 "ZZ=="))
  let mended := { lost with system := lost.system.happen .clearFailures }
  mended.operate engine naming (.activate "now" (plainBody 2 "AA=="))

theorem agrees_afterLostRebuild :
    afterLostRebuild.chain.keys = [2] ∧
      afterLostRebuild.system.interfaces.keys = ["hl", "hlhop2"] ∧
      afterLostRebuild.Agrees ⟨"hl"⟩ ∧
      ((status Memory.engine afterLostRebuild).1.connected = true ↔
        afterLostRebuild.chain.contains 0 = true) := by
  have hstarted : Relation.ReflTransGen (Evolves ⟨"hl"⟩) (started ⟨"hl"⟩ Memory.fresh) _ := .refl
  have hup := hstarted.tail (.operation _ (.activate "then" (plainBody 0 "AA==")))
  have hfailing := hup.tail (.event (.failOn .addInterfaceIPs) fun _ _ heq => by cases heq)
  have hlost := hfailing.tail (.operation _ (.activate "later" (plainBody 0 "ZZ==")))
  have hmended := hlost.tail (.event .clearFailures fun _ _ heq => by cases heq)
  have hrelay := hmended.tail (.operation _ (.activate "now" (plainBody 2 "AA==")))
  exact ⟨by decide +kernel, by decide +kernel, agrees_of_reachable hrelay⟩

end Controller

end TunnelChain
