import TunnelChain.Proofs.Isolation
import TunnelChain.Proofs.Unhindered

/-!
# Recovery

Nothing is undone when an operation fails half way, and interfaces come and go behind a controller's
back. Once nothing fails any more, the next activation of a hop builds it over whatever is left, and
the deactivation after it leaves nothing of it. The exception is an activation that only changes the
peer of an interface: where this has vanished, the hop stays registered without it.
-/

namespace TunnelChain

section Activation

variable {switching : Bool} {now : String} {tunnel : Tunnel} {chain next : Chain}
  {result : Except OperationError Unit} {xs : List Exchange} {said : List HopEvent}
  {memory after : Memory}

/-- What a tunnel finds in its place when it has been built and nothing has failed. -/
theorem Building.interface_of_unhindered (h : Building now tunnel chain result xs next said)
    (hruns : Memory.engine.Runs memory xs after) (hfailing : memory.failing = []) :
    after.interfaces.get? tunnel.name = some tunnel.interface := by
  obtain ⟨-, ⟨ys, -, rfl⟩, -, -⟩ := h.unhindered hruns hfailing
  rw [Memory.get?_of_runs hruns, interfaceAfter_append]
  exact interfaceAfter_buildScript tunnel _

/-- Whether an activation would change the peer of an interface and leave it otherwise as it is. -/
def Chain.Replaces (switching : Bool) (tunnel : Tunnel) (chain : Chain) : Prop :=
  ∃ current, chain.get? tunnel.hop = some current ∧
    (tunnel.canReplace current.tunnel && switching) = true

/-- Where nothing fails, a tunnel is up after its activation, whatever was there before. -/
theorem Activation.unhindered (h : Activation switching now tunnel chain result xs next said)
    (hruns : Memory.engine.Runs memory xs after) (hfailing : memory.failing = [])
    (hshort : Utf8.size tunnel.name ≤ Naming.maxBytes)
    (hanew : ¬chain.Replaces switching tunnel) :
    result = .ok () ∧ next.get? tunnel.hop = some ⟨tunnel, now⟩ ∧
      after.interfaces.get? tunnel.name = some tunnel.interface := by
  have hput (before : Chain) : (before.put ⟨tunnel, now⟩).get? tunnel.hop = some ⟨tunnel, now⟩ := by
    rw [Chain.put, Table.get?_insert, if_pos rfl]
  cases h with
  | overlong hlong => exact absurd hshort (Nat.not_le.mpr hlong)
  | fresh _ _ hbuild =>
    obtain ⟨hresult, -, rfl, -⟩ := hbuild.unhindered hruns hfailing
    exact ⟨hresult, hput _, hbuild.interface_of_unhindered hruns hfailing⟩
  | switched _ hup hswitch => exact absurd ⟨_, hup, hswitch⟩ hanew
  | unswitched _ hup hswitch => exact absurd ⟨_, hup, hswitch⟩ hanew
  | kept _ hup _ hteardown hgone =>
    cases hgone.symm.trans (hteardown.unhindered hruns hfailing hup)
  | rebuilt _ _ _ _ _ hbuild =>
    obtain ⟨middle, hteardown, hbuilding⟩ := hruns.split
    have hsmooth := Memory.failing_of_runs hteardown hfailing
    obtain ⟨hresult, -, rfl, -⟩ := hbuild.unhindered hbuilding hsmooth
    exact ⟨hresult, hput _, hbuild.interface_of_unhindered hbuilding hsmooth⟩

theorem Memory.configure_of_absent (hfailing : memory.failing = [])
    (habsent : memory.interfaces.get? tunnel.name = none) :
    (Memory.perform (.configureInterface tunnel) memory).answer =
      .error ⟨.configureInterface, "no interface named " ++ tunnel.name⟩ := by
  simp [Memory.perform, hfailing, Memory.apply, Memory.alter, Table.contains, habsent]

/-- The peer of an interface that has vanished cannot be changed, and nothing else is tried. -/
theorem Activation.wedged (h : Activation switching now tunnel chain result xs next said)
    (hruns : Memory.engine.Runs memory xs after) (hfailing : memory.failing = [])
    (hshort : Utf8.size tunnel.name ≤ Naming.maxBytes) (hreplaces : chain.Replaces switching tunnel)
    (habsent : memory.interfaces.get? tunnel.name = none) :
    result = .error (.backend ⟨.configureInterface, "no interface named " ++ tunnel.name⟩) ∧
      after = memory ∧ next = chain ∧ said = [] := by
  obtain ⟨current, hcurrent, hswitching⟩ := hreplaces
  have hrefused := Memory.configure_of_absent hfailing habsent
  cases h with
  | overlong hlong => exact absurd hshort (Nat.not_le.mpr hlong)
  | fresh _ hdown _ => cases hdown.symm.trans hcurrent
  | switched _ _ _ => cases hruns.of_call.1.trans hrefused
  | unswitched _ _ _ =>
    obtain ⟨hanswer, hafter⟩ := hruns.of_call
    cases hanswer.trans hrefused
    exact ⟨rfl, hafter.trans (Memory.system_of_failed hrefused), rfl, rfl⟩
  | kept _ hup hswitch _ _ =>
    cases hcurrent.symm.trans hup
    cases hswitching.symm.trans hswitch
  | rebuilt _ hup hswitch _ _ _ =>
    cases hcurrent.symm.trans hup
    cases hswitching.symm.trans hswitch

end Activation

/-- What a controller of a system in memory can go through. -/
inductive Incident where
  | sweep
  | operation (operation : Operation)
  | event (event : Memory.Event)

namespace Controller

/-- What an incident makes of a controller. -/
def encounter (naming : Naming) (controller : Controller Memory) : Incident → Controller Memory
  | .sweep => (sweep Memory.engine naming controller).2
  | .operation operation => controller.operate Memory.engine naming operation
  | .event event => { controller with system := controller.system.happen event }

/-- A controller that has started on a memory, after some incidents. -/
def weathered (naming : Naming) (memory : Memory) (incidents : List Incident) : Controller Memory :=
  incidents.foldl (encounter naming) (fresh memory)

variable {controller : Controller Memory} {naming : Naming} {body : Json} {tunnel : Tunnel}

/-- Whether an activation succeeds and its hop is up afterwards, with the interface and the peer of
its tunnel. -/
structure Recovers (controller : Controller Memory) (now : String) (tunnel : Tunnel) : Prop where
  succeeds : (activate Memory.engine now tunnel controller).1 = .ok ()
  registered : (activate Memory.engine now tunnel controller).2.chain.get? tunnel.hop =
    some ⟨tunnel, now⟩
  present : (activate Memory.engine now tunnel controller).2.system.interfaces.get? tunnel.name =
    some tunnel.interface

theorem recovers_of_not_replaces (hfailing : controller.system.failing = [])
    (hshort : Utf8.size tunnel.name ≤ Naming.maxBytes)
    (hanew : ¬controller.chain.Replaces controller.system.supportsSwitching tunnel) (now : String) :
    controller.Recovers now tunnel := by
  obtain ⟨xs, next, said, hactivation, hturns⟩ :=
    activate_law Memory.engine now tunnel controller
  obtain ⟨hresult, hregistered, hpresent⟩ :=
    hactivation.unhindered hturns.runs hfailing hshort hanew
  refine ⟨hresult, ?_, hpresent⟩
  rw [hturns.chain]
  exact hregistered

theorem activate_of_vanished (hfailing : controller.system.failing = [])
    (hshort : Utf8.size tunnel.name ≤ Naming.maxBytes)
    (hvanished : controller.system.interfaces.get? tunnel.name = none)
    (hreplaces : controller.chain.Replaces controller.system.supportsSwitching tunnel)
    (now : String) :
    (activate Memory.engine now tunnel controller).1 =
        .error (.backend ⟨.configureInterface, "no interface named " ++ tunnel.name⟩) ∧
      (activate Memory.engine now tunnel controller).2.system = controller.system ∧
      (activate Memory.engine now tunnel controller).2.chain = controller.chain ∧
      (activate Memory.engine now tunnel controller).2.events = controller.events := by
  obtain ⟨xs, next, said, hactivation, hturns⟩ :=
    activate_law Memory.engine now tunnel controller
  obtain ⟨hresult, hsystem, rfl, rfl⟩ :=
    hactivation.wedged hturns.runs hfailing hshort hreplaces hvanished
  exact ⟨hresult, hsystem, hturns.chain, hturns.events.trans (List.append_nil _)⟩

/-- **Vanished interfaces.** Where nothing fails, an activation rebuilds a hop without its
interface, unless it would only change the peer of the hop that is up; then it fails, and nothing
has changed. -/
theorem recovers_iff_not_replaces (hfailing : controller.system.failing = [])
    (hbody : Tunnel.ofBody naming.name body = .ok tunnel)
    (hshort : Utf8.size tunnel.name ≤ Naming.maxBytes)
    (hvanished : controller.system.interfaces.get? (naming.name tunnel.hop) = none) (now : String) :
    (controller.Recovers now tunnel ↔
      ¬controller.chain.Replaces controller.system.supportsSwitching tunnel) ∧
    (controller.chain.Replaces controller.system.supportsSwitching tunnel →
      (activate Memory.engine now tunnel controller).1 =
          .error (.backend ⟨.configureInterface, "no interface named " ++ tunnel.name⟩) ∧
        (activate Memory.engine now tunnel controller).2.system = controller.system ∧
        (activate Memory.engine now tunnel controller).2.chain = controller.chain ∧
        (activate Memory.engine now tunnel controller).2.events = controller.events) := by
  rw [← Tunnel.name_of_ofBody hbody] at hvanished
  refine ⟨⟨fun hrecovers hreplaces => ?_, fun hanew => ?_⟩, fun hreplaces => ?_⟩
  · have hfailed := (activate_of_vanished hfailing hshort hvanished hreplaces now).1
    cases hrecovers.succeeds.symm.trans hfailed
  · exact recovers_of_not_replaces hfailing hshort hanew now
  · exact activate_of_vanished hfailing hshort hvanished hreplaces now

/-- The exit hop is up when its interface is removed from outside. -/
def vanishedExit : Controller Memory :=
  weathered ⟨"hl"⟩ Memory.fresh
    [.operation (.activate "then" (plainBody 0 "AA==")), .event (.removeExternally "hl")]

theorem recovers_vanishedExit :
    vanishedExit.chain.keys = [0] ∧ vanishedExit.system.interfaces.get? "hl" = none ∧
      vanishedExit.Recovers "now" (plainTunnel ⟨"hl"⟩ 0 "ZZ==") := by
  have hbody : Tunnel.ofBody (Naming.name ⟨"hl"⟩) (plainBody 0 "ZZ==") =
      .ok (plainTunnel ⟨"hl"⟩ 0 "ZZ==") := by
    decide +kernel
  have hcurrent : vanishedExit.chain.get? 0 = some ⟨plainTunnel ⟨"hl"⟩ 0 "AA==", "then"⟩ := by
    decide +kernel
  have hanew : ¬vanishedExit.chain.Replaces vanishedExit.system.supportsSwitching
      (plainTunnel ⟨"hl"⟩ 0 "ZZ==") := by
    rintro ⟨current, hup, hswitch⟩
    cases hcurrent.symm.trans hup
    exact absurd hswitch (by decide +kernel)
  have hfailing : vanishedExit.system.failing = [] := by decide +kernel
  have hvanished : vanishedExit.system.interfaces.get? (Naming.name ⟨"hl"⟩ 0) = none := by
    decide +kernel
  have hrecovers := recovers_iff_not_replaces hfailing hbody (by decide +kernel) hvanished "now"
  exact ⟨by decide +kernel, hvanished, hrecovers.1.mpr hanew⟩

/-- The very tunnel that is registered cannot be activated again. -/
theorem not_recovers_vanishedExit :
    vanishedExit.system.failing = [] ∧ vanishedExit.chain.keys = [0] ∧
      vanishedExit.system.interfaces.get? "hl" = none ∧
      Tunnel.ofBody (Naming.name ⟨"hl"⟩) (plainBody 0 "AA==") =
        .ok (plainTunnel ⟨"hl"⟩ 0 "AA==") ∧
      Utf8.size (plainTunnel ⟨"hl"⟩ 0 "AA==").name ≤ Naming.maxBytes ∧
      ¬vanishedExit.Recovers "now" (plainTunnel ⟨"hl"⟩ 0 "AA==") := by
  refine ⟨by decide +kernel, by decide +kernel, by decide +kernel, by decide +kernel,
    by decide +kernel, fun hrecovers => ?_⟩
  exact absurd hrecovers.succeeds (by decide +kernel)

/-- Where nothing fails, a hop that is not up comes up, and only its own interface and name servers
change. -/
theorem activate_of_down (hfailing : controller.system.failing = [])
    (hshort : Utf8.size tunnel.name ≤ Naming.maxBytes)
    (hdown : controller.chain.get? tunnel.hop = none) (now : String) :
    ∃ up, activate Memory.engine now tunnel controller = (.ok (), up) ∧ up.system.failing = [] ∧
      up.chain = controller.chain.put ⟨tunnel, now⟩ ∧
      up.system.interfaces.get? tunnel.name = some tunnel.interface ∧
      (∀ name, name ≠ tunnel.name →
        up.system.interfaces.get? name = controller.system.interfaces.get? name) ∧
      (tunnel.hop ≠ 0 → up.system.resolvers = controller.system.resolvers) := by
  obtain ⟨xs, next, said, hactivation, hturns⟩ := activate_law Memory.engine now tunnel controller
  have hbuild := hactivation.of_down hshort hdown
  obtain ⟨hresult, -, hnext, -⟩ := hbuild.unhindered hturns.runs hfailing
  refine ⟨_, Prod.ext hresult rfl, Memory.failing_of_runs hturns.runs hfailing,
    hturns.chain.trans hnext, hbuild.interface_of_unhindered hturns.runs hfailing,
    fun name hother => ?_, fun hrelay => ?_⟩
  · rw [Memory.get?_of_runs hturns.runs]
    exact interfaceAfter_of_minds (Ne.symm hother) (fun x hx => (hbuild.concerns x hx).minds) _
  · rw [Memory.resolvers_of_runs hturns.runs]
    exact resolversAfter_of_concerns _ hrelay hbuild.concerns

/-- Where nothing fails, a hop whose interface exists comes down, and nothing is left of it. -/
theorem deactivate_of_present {hop : HopIndex} {active : ActiveHop}
    (hfailing : controller.system.failing = []) (hup : controller.chain.get? hop = some active)
    (hpresent : (controller.system.interfaces.get? active.tunnel.name).isSome = true)
    (announce : Bool) :
    ∃ down, deactivate Memory.engine hop announce controller = (.ok (), down) ∧
      down.chain = controller.chain.erase hop ∧
      (∀ name, down.system.interfaces.get? name =
        if name = active.tunnel.name then none else controller.system.interfaces.get? name) ∧
      down.system.resolvers = if hop = 0 then none else controller.system.resolvers := by
  obtain ⟨xs, next, said, hteardown, hturns⟩ :=
    deactivate_law Memory.engine hop announce controller
  obtain ⟨hresult, rfl, hnext, -⟩ := hteardown.of_present hturns.runs hfailing hup hpresent
  refine ⟨_, Prod.ext hresult rfl, hturns.chain.trans hnext, fun name => ?_, ?_⟩
  · rw [Memory.get?_of_runs hturns.runs]
    split
    · rename_i hname
      subst hname
      rw [interfaceAfter_append]
      simp [interfaceAfter, Exchange.onInterface, Call.interface?, Call.onInterface]
    · rename_i hother
      exact interfaceAfter_of_minds (Ne.symm hother)
        (fun x hx => (hteardown.concerns hup x hx).minds) _
  · rw [Memory.resolvers_of_runs hturns.runs]
    exact hteardown.resolversAfter_eq _ (by rw [hresult]; rfl)

/-- **Reconciliation.** Whatever is left of a hop that is not up: where nothing fails any more, it
comes up, and when it is brought down right after, nothing is left of it and all else is as
before. -/
theorem activate_deactivate_reconciles (hfailing : controller.system.failing = [])
    (hbody : Tunnel.ofBody naming.name body = .ok tunnel)
    (hshort : Utf8.size tunnel.name ≤ Naming.maxBytes)
    (hdown : controller.chain.get? tunnel.hop = none) (now : String) :
    ∃ up down, activate Memory.engine now tunnel controller = (.ok (), up) ∧
      deactivate Memory.engine tunnel.hop true up = (.ok (), down) ∧
      (∀ hop, down.chain.get? hop =
        if hop = tunnel.hop then none else controller.chain.get? hop) ∧
      (∀ name, down.system.interfaces.get? name =
        if name = naming.name tunnel.hop then none else controller.system.interfaces.get? name) ∧
      down.system.resolvers = if tunnel.hop = 0 then none else controller.system.resolvers := by
  obtain ⟨up, hactivate, hsmooth, hchain, hbuilt, hinterfaces, hresolvers⟩ :=
    activate_of_down hfailing hshort hdown now
  have hregistered : up.chain.get? tunnel.hop = some ⟨tunnel, now⟩ := by
    rw [hchain, Chain.put, Table.get?_insert, if_pos rfl]
  have hpresent : (up.system.interfaces.get? tunnel.name).isSome = true := by
    rw [hbuilt]
    rfl
  obtain ⟨down, hdeactivate, hchain', hinterfaces', hresolvers'⟩ :=
    deactivate_of_present hsmooth hregistered hpresent true
  refine ⟨up, down, hactivate, hdeactivate, fun hop => ?_, fun name => ?_, ?_⟩
  · rw [hchain', hchain, Table.get?_erase, Chain.put, Table.get?_insert]
    split
    · rfl
    · rfl
  · rw [hinterfaces', ← Tunnel.name_of_ofBody hbody]
    split
    · rfl
    · exact hinterfaces name (by assumption)
  · rw [hresolvers']
    split
    · rfl
    · exact hresolvers (by assumption)

/-- A relay has lost its interface, and the exit hop's activation has stopped half way, when
failures end. -/
def halfBuilt : Controller Memory :=
  weathered ⟨"hl"⟩ Memory.fresh
    [.operation (.activate "then" (plainBody 2 "AA==")), .event (.failOn .addRoutePrefix),
      .operation (.activate "later" (plainBody 0 "AA==")), .event (.removeExternally "hlhop2"),
      .event .clearFailures]

theorem reconciles_halfBuilt :
    halfBuilt.chain.keys = [2] ∧
      halfBuilt.system.interfaces.get? "hl" = some ⟨some "BB==", [], true, ⟨0, 0⟩⟩ ∧
      halfBuilt.system.resolvers = some ("hl", ["10.0.0.1"]) ∧
      ∃ up down,
        activate Memory.engine "now" (plainTunnel ⟨"hl"⟩ 0 "AA==") halfBuilt = (.ok (), up) ∧
        deactivate Memory.engine 0 true up = (.ok (), down) ∧ down.chain.get? 0 = none ∧
        down.system.interfaces.get? "hl" = none ∧ down.system.resolvers = none := by
  have hbody : Tunnel.ofBody (Naming.name ⟨"hl"⟩) (plainBody 0 "AA==") =
      .ok (plainTunnel ⟨"hl"⟩ 0 "AA==") := by
    decide +kernel
  have hfailing : halfBuilt.system.failing = [] := by decide +kernel
  have hhop : (plainTunnel ⟨"hl"⟩ 0 "AA==").hop = 0 := by decide +kernel
  have hdown : halfBuilt.chain.get? (plainTunnel ⟨"hl"⟩ 0 "AA==").hop = none := by decide +kernel
  obtain ⟨up, down, hactivated, hdeactivated, hchain, hinterfaces, hresolvers⟩ :=
    activate_deactivate_reconciles hfailing hbody (by decide +kernel) hdown "now"
  rw [hhop] at hdeactivated hchain hinterfaces hresolvers
  exact ⟨by decide +kernel, by decide +kernel, by decide +kernel, up, down, hactivated,
    hdeactivated, hchain 0, hinterfaces "hl", hresolvers⟩

end Controller

end TunnelChain
