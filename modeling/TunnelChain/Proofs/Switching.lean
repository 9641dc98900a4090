import TunnelChain.Proofs.Following
import TunnelChain.Proofs.Isolation

/-!
# What switching in place leaves behind

A hop that is up and whose keys, addresses and gateways stay the same is not built anew: only its
peer is changed. Everything else that a build sets up is then left as an earlier tunnel wanted it:
the routes of the interface, and for the exit hop the name servers.
-/

namespace TunnelChain

/-- What can happen to a controller over memory while nobody else creates or takes away
interfaces. -/
inductive Occurrence where
  | operation (operation : Operation)
  | event (event : Memory.Event) (hspared : event.interface? = none)

theorem Tunnel.resolvers_eq_iff {tunnel current : Tunnel} (h : tunnel.canReplace current = true) :
    tunnel.resolvers = current.resolvers ↔ tunnel.ipv6Enabled = current.ipv6Enabled := by
  simp only [canReplace, Bool.and_eq_true, decide_eq_true_eq] at h
  obtain ⟨⟨_, hgateway⟩, hgateway'⟩ := h
  unfold resolvers
  rw [hgateway, hgateway']
  cases tunnel.ipv6Enabled <;> cases current.ipv6Enabled <;> simp

namespace Controller

variable {σ : Type}

/-- Whether an activation succeeds by changing the peer of the hop that is up. -/
structure Switches (engine : Engine σ) (now : String) (tunnel : Tunnel) (controller : Controller σ)
    (current : ActiveHop) : Prop where
  up : controller.chain.get? tunnel.hop = some current
  replaceable : (tunnel.canReplace current.tunnel &&
    engine.supportsSwitching controller.system) = true
  succeeds : (activate engine now tunnel controller).1 = .ok ()

theorem Switches.turns {engine : Engine σ} {now : String} {tunnel : Tunnel}
    {controller : Controller σ} {current : ActiveHop}
    (h : Switches engine now tunnel controller current) :
    Turns engine controller [.call (.configureInterface tunnel) (.ok ())]
      (controller.chain.put ⟨tunnel, now⟩) [.connected tunnel.hop]
      (activate engine now tunnel controller).2 := by
  obtain ⟨hcurrent, hreplaceable, hsucceeds⟩ := h
  obtain ⟨xs, next, said, hactivation, hturns⟩ := activate_law engine now tunnel controller
  rw [hsucceeds] at hactivation
  cases hactivation with
  | switched _ _ _ => exact hturns
  | fresh _ hdown _ => cases hdown.symm.trans hcurrent
  | kept _ _ _ _ hgone => cases hgone
  | rebuilt _ hup hswitch _ _ _ =>
    cases hcurrent.symm.trans hup
    cases hswitch.symm.trans hreplaceable

variable {naming : Naming} {controller : Controller (Transcript Memory)} {now : String}
  {tunnel : Tunnel}

def undergo (naming : Naming) (controller : Controller (Transcript Memory)) :
    Occurrence → Controller (Transcript Memory)
  | .operation operation => controller.operate Memory.engine.transcribed naming operation
  | .event event _ =>
    { controller with
      system := { controller.system with system := controller.system.system.happen event } }

/-- A controller that has started on a memory, after a run. -/
def after (naming : Naming) (memory : Memory) (run : List Occurrence) :
    Controller (Transcript Memory) :=
  run.foldl (undergo naming) (fresh (.blank memory))

theorem after_append_singleton (naming : Naming) (memory : Memory) (played : List Occurrence)
    (last : Occurrence) :
    after naming memory (played ++ [last]) = (after naming memory played).undergo naming last :=
  List.foldl_append

/-- The same where nothing is written down. -/
def befall (naming : Naming) (controller : Controller Memory) : Occurrence → Controller Memory
  | .operation operation => controller.operate Memory.engine naming operation
  | .event event _ => { controller with system := controller.system.happen event }

theorem after_mapSystem (naming : Naming) (memory : Memory) (run : List Occurrence) :
    (after naming memory run).mapSystem Transcript.system =
      run.foldl (befall naming) (fresh memory) := by
  induction run using List.reverseRecOn with
  | nil => rfl
  | append_singleton run last ih =>
    rw [after_append_singleton, List.foldl_append, List.foldl_cons, List.foldl_nil, ← ih]
    cases last with
    | operation operation =>
      exact (operate_mapSystem Memory.engine.transcribed_follows naming _ operation).symm
    | event event hspared => rfl

theorem interfaces_of_turns {next : Controller (Transcript Memory)} {xs : List Exchange}
    {chain : Chain} {said : List HopEvent}
    (h : Turns Memory.engine.transcribed controller xs chain said next) (name : String) :
    next.system.system.interfaces.get? name =
      interfaceAfter name xs (controller.system.system.interfaces.get? name) :=
  Memory.get?_of_runs h.runs.of_transcribed.1 name

theorem resolvers_of_turns {next : Controller (Transcript Memory)} {xs : List Exchange}
    {chain : Chain} {said : List HopEvent}
    (h : Turns Memory.engine.transcribed controller xs chain said next) :
    next.system.system.resolvers = resolversAfter xs controller.system.system.resolvers :=
  Memory.resolvers_of_runs h.runs.of_transcribed.1

theorem undergo_activate {body : Json} (hbody : Tunnel.ofBody naming.name body = .ok tunnel)
    (now : String) (controller : Controller (Transcript Memory)) :
    controller.undergo naming (.operation (.activate now body)) =
      (activate Memory.engine.transcribed now tunnel controller).2 :=
  operate_activate_ok hbody _ _ _

theorem named_undergo (h : controller.chain.Named naming) (occurrence : Occurrence) :
    (controller.undergo naming occurrence).chain.Named naming := by
  cases occurrence with
  | event event hspared => exact h
  | operation operation => exact named_operate h operation

theorem named_after (naming : Naming) (memory : Memory) (run : List Occurrence) :
    (after naming memory run).chain.Named naming := by
  induction run using List.reverseRecOn with
  | nil => exact fun _ _ hactive => by cases hactive
  | append_singleton run last ih =>
    rw [after_append_singleton]
    exact named_undergo ih last

/-- Whether what happens is no switch in place, or one from a tunnel to a tunnel that may follow
it. -/
def SwitchesWithin (MayFollow : Tunnel → Tunnel → Prop) (naming : Naming)
    (controller : Controller (Transcript Memory)) (occurrence : Occurrence) : Prop :=
  ∀ now body tunnel current, occurrence = .operation (.activate now body) →
    Tunnel.ofBody naming.name body = .ok tunnel →
    Switches Memory.engine.transcribed now tunnel controller current →
    MayFollow tunnel current.tunnel

/-- An invariant that only switches in place can break is kept exactly if they stay within the
tunnels that may follow. -/
theorem undergo_iff {P : Controller (Transcript Memory) → Prop}
    {MayFollow : Tunnel → Tunnel → Prop} {occurrence : Occurrence}
    (hnote : ∀ controller level text, P controller → P (controller.note level text))
    (halarm : ∀ controller, P controller → P (controller.emit .backendFailure))
    (hdeactivate : ∀ controller hop announce, controller.chain.Named naming → P controller →
      P (deactivate Memory.engine.transcribed hop announce controller).2)
    (hevent : ∀ event hspared, occurrence = .event event hspared →
      P (controller.undergo naming occurrence))
    (hactivate : ∀ now body tunnel, occurrence = .operation (.activate now body) →
      Tunnel.ofBody naming.name body = .ok tunnel →
      (P (activate Memory.engine.transcribed now tunnel controller).2 ↔
        ∀ current, Switches Memory.engine.transcribed now tunnel controller current →
          MayFollow tunnel current.tunnel))
    (hnamed : controller.chain.Named naming) (h : P controller) :
    P (controller.undergo naming occurrence) ↔
      controller.SwitchesWithin MayFollow naming occurrence := by
  constructor
  · rintro hafter now body tunnel current rfl hbody hswitches
    rw [undergo_activate hbody] at hafter
    exact (hactivate now body tunnel rfl hbody).mp hafter current hswitches
  · intro hwithin
    cases occurrence with
    | event event hspared => exact hevent event hspared rfl
    | operation operation =>
      have hboth : controller.chain.Named naming ∧ P controller := ⟨hnamed, h⟩
      refine (operate_induction (P := fun controller =>
        controller.chain.Named naming ∧ P controller)
        (fun _ _ _ h => ⟨h.1, hnote _ _ _ h.2⟩) (fun _ h => ⟨h.1, halarm _ h.2⟩) ?_ hboth ?_).2
      · rintro before hop announce ⟨hnamed, hbefore⟩
        exact ⟨named_undergo hnamed (.operation (.deactivate hop announce)),
          hdeactivate before hop announce hnamed hbefore⟩
      · rintro now body tunnel rfl hbody
        have hnamed' := named_undergo hnamed (.operation (.activate now body))
        rw [undergo_activate hbody] at hnamed'
        exact ⟨hnamed', (hactivate now body tunnel rfl hbody).mpr fun current =>
          hwithin now body tunnel current rfl hbody⟩

section Routes

/-- Whether every hop that is up has an interface with the routes of its tunnel, in order. -/
def Routed (naming : Naming) (controller : Controller (Transcript Memory)) : Prop :=
  ∀ hop active, controller.chain.get? hop = some active → ∃ interface,
    controller.system.system.interfaces.get? (naming.name hop) = some interface ∧
      interface.routes = active.tunnel.ranges.map AddressRange.text

theorem routed_deactivate (hnamed : controller.chain.Named naming) (h : controller.Routed naming)
    (hop : HopIndex) (announce : Bool) :
    (deactivate Memory.engine.transcribed hop announce controller).2.Routed naming := by
  obtain ⟨xs, next, said, hteardown, hturns⟩ :=
    deactivate_law Memory.engine.transcribed hop announce controller
  intro other active hactive
  rw [hturns.chain] at hactive
  obtain ⟨hbefore, hinterface⟩ := hteardown.kept hnamed hactive
  rw [interfaces_of_turns hturns, hinterface]
  exact h other active hbefore

/-- An activation keeps the routes right exactly if it does not switch a hop in place to other
ranges. -/
theorem routed_activate_iff (hnamed : controller.chain.Named naming)
    (hname : tunnel.name = naming.name tunnel.hop) (h : controller.Routed naming) :
    (activate Memory.engine.transcribed now tunnel controller).2.Routed naming ↔
      ∀ current, Switches Memory.engine.transcribed now tunnel controller current →
        tunnel.ranges.map AddressRange.text = current.tunnel.ranges.map AddressRange.text := by
  constructor
  · intro hafter current hswitches
    have hturns := hswitches.turns
    obtain ⟨interface, hinterface, hroutes⟩ := h tunnel.hop current hswitches.up
    obtain ⟨switched, hswitched, hroutes'⟩ := hafter tunnel.hop ⟨tunnel, now⟩ (by
      rw [hturns.chain, Chain.put, Table.get?_insert, if_pos rfl])
    rw [interfaces_of_turns hturns, hinterface, ← hname] at hswitched
    simp only [interfaceAfter, List.foldl, Exchange.onInterface, Call.interface?, if_true,
      Call.onInterface, Option.map_some, Option.some.injEq] at hswitched
    subst hswitched
    exact hroutes'.symm.trans hroutes
  · intro hranges hop active hactive
    obtain ⟨xs, next, said, hactivation, hturns⟩ :=
      activate_law Memory.engine.transcribed now tunnel controller
    rw [hturns.chain] at hactive
    rw [interfaces_of_turns hturns]
    cases hactivation.origin hname hnamed hactive with
    | kept hbefore hinterface =>
      rw [hinterface]
      exact h hop active hbefore
    | built hhop hshort hinterface => exact ⟨tunnel.interface, hinterface _, rfl⟩
    | @switched current hhop hshort hup hswitch hresult hinterface =>
      subst hhop
      obtain ⟨interface, hbefore, hroutes⟩ := h tunnel.hop current hup
      rw [hinterface, hbefore, hranges current ⟨hup, hswitch, hresult⟩]
      exact ⟨_, rfl, hroutes⟩

theorem routed_event (h : controller.Routed naming) {event : Memory.Event}
    (hspared : event.interface? = none) :
    (controller.undergo naming (.event event hspared)).Routed naming := by
  intro hop active hactive
  obtain ⟨interface, hinterface, hroutes⟩ := h hop active hactive
  have hother : event.interface? ≠ some (naming.name hop) := by simp [hspared]
  obtain ⟨throughput, hlater⟩ := Memory.get?_happen hother hinterface
  exact ⟨{ interface with throughput }, hlater, hroutes⟩

/-- **Routes after switches.** Throughout a run the interfaces of the hops that are up have the
routes of their tunnels if and only if every switch in place keeps the ranges. -/
theorem routed_iff_switches_keep_ranges (naming : Naming) (memory : Memory)
    (run : List Occurrence) :
    (∀ played, played <+: run → (after naming memory played).Routed naming) ↔
      ∀ played last, played ++ [last] <+: run →
        (after naming memory played).SwitchesWithin
          (fun tunnel current =>
            tunnel.ranges.map AddressRange.text = current.ranges.map AddressRange.text)
          naming last := by
  refine forall_prefix_iff (fun _ _ hactive => by cases hactive) fun played last _ h => ?_
  have hnamed := named_after naming memory played
  refine undergo_iff (fun _ _ _ h => h) (fun _ h => h)
    (fun _ hop announce hnamed h => routed_deactivate hnamed h hop announce) ?_ ?_ hnamed h
  · rintro event hspared rfl
    exact routed_event h hspared
  · rintro now body tunnel - hbody
    exact routed_activate_iff hnamed (Tunnel.name_of_ofBody hbody) h

/-- A tunnel is switched in place to another range. -/
def otherRange : List Occurrence :=
  let narrow : TunnelRequest := { plainRequest 0 "AA==" with ranges := [⟨"10.0.0.0", 8, false⟩] }
  [.operation (.activate "then" (plainBody 0 "AA==")),
    .operation (.activate "now" (ClientMessage.activate narrow).toJson)]

/-- No call fails, but the interface keeps the route that nobody asks for any more. -/
theorem not_routed_otherRange :
    Clean (after ⟨"hl"⟩ Memory.fresh otherRange).system.exchanges ∧
      ((after ⟨"hl"⟩ Memory.fresh otherRange).chain.get? 0).map
        (fun active => active.tunnel.ranges.map AddressRange.text) = some ["10.0.0.0/8"] ∧
      ((after ⟨"hl"⟩ Memory.fresh otherRange).system.system.interfaces.get? "hl").map
        Interface.routes = some ["0.0.0.0/0"] ∧
      ¬(after ⟨"hl"⟩ Memory.fresh otherRange).Routed ⟨"hl"⟩ := by
  have hranges : ((after ⟨"hl"⟩ Memory.fresh otherRange).chain.get? 0).map
      (fun active => active.tunnel.ranges.map AddressRange.text) = some ["10.0.0.0/8"] := by
    decide +kernel
  have hroutes : ((after ⟨"hl"⟩ Memory.fresh otherRange).system.system.interfaces.get? "hl").map
      Interface.routes = some ["0.0.0.0/0"] := by
    decide +kernel
  refine ⟨by decide +kernel, hranges, hroutes, fun hrouted => ?_⟩
  obtain ⟨active, hactive, htexts⟩ := Option.map_eq_some_iff.mp hranges
  obtain ⟨interface, hinterface, hsame⟩ := hrouted 0 active hactive
  have hname : Naming.name ⟨"hl"⟩ 0 = "hl" := by decide +kernel
  rw [hname] at hinterface
  rw [hinterface, Option.map_some, hsame, htexts] at hroutes
  exact absurd hroutes (by decide)

end Routes

section Resolvers

/-- Whether the name servers are those of the exit hop's tunnel, or the system's own while the exit
hop is down. -/
def Directed (naming : Naming) (controller : Controller (Transcript Memory)) : Prop :=
  controller.system.system.resolvers =
    (controller.chain.get? 0).map fun active => (naming.name 0, active.tunnel.resolvers)

theorem clean_of_turns {next : Controller (Transcript Memory)} {xs : List Exchange}
    {chain : Chain} {said : List HopEvent}
    (h : Turns Memory.engine.transcribed controller xs chain said next)
    (hclean : Clean next.system.exchanges) : Clean controller.system.exchanges ∧ Clean xs := by
  rw [h.runs.of_transcribed.2.1] at hclean
  exact hclean.of_append

theorem directed_deactivate {hop : HopIndex} {announce : Bool}
    (hnamed : controller.chain.Named naming) (h : controller.Directed naming)
    (hclean : Clean
      (deactivate Memory.engine.transcribed hop announce controller).2.system.exchanges) :
    (deactivate Memory.engine.transcribed hop announce controller).2.Directed naming := by
  obtain ⟨xs, next, said, hteardown, hturns⟩ :=
    deactivate_law Memory.engine.transcribed hop announce controller
  unfold Directed at h ⊢
  rw [resolvers_of_turns hturns, hturns.chain, h]
  by_cases hexit : hop = 0
  · subst hexit
    rcases hteardown.of_clean (clean_of_turns hturns hclean).2 with ⟨-, rfl, rfl, -⟩ | ⟨-, hgone⟩
    · rfl
    · rw [hteardown.resolversAfter_eq _ hgone, (hteardown.of_isGone hgone).1, Table.get?_erase]
      rfl
  · rw [resolversAfter_of_concerns _ hexit (hteardown.concerns_name hnamed),
      hteardown.get?_other (Ne.symm hexit)]

/-- Where no call fails, an activation keeps the name servers right exactly if it does not switch
the exit hop in place to a tunnel with another choice of IPv6. -/
theorem directed_activate_iff (hnamed : controller.chain.Named naming)
    (hname : tunnel.name = naming.name tunnel.hop) (h : controller.Directed naming)
    (hclean : Clean (activate Memory.engine.transcribed now tunnel controller).2.system.exchanges) :
    (activate Memory.engine.transcribed now tunnel controller).2.Directed naming ↔
      ∀ current, Switches Memory.engine.transcribed now tunnel controller current →
        tunnel.hop = 0 → tunnel.ipv6Enabled = current.tunnel.ipv6Enabled := by
  obtain ⟨xs, next, said, hactivation, hturns⟩ :=
    activate_law Memory.engine.transcribed now tunnel controller
  unfold Directed at h ⊢
  by_cases hexit : tunnel.hop = 0
  · by_cases hswitches : ∃ current,
      Switches Memory.engine.transcribed now tunnel controller current
    · obtain ⟨current, hswitches⟩ := hswitches
      have hup := hswitches.up
      have hreplaceable := (Bool.and_eq_true_iff.mp hswitches.replaceable).1
      rw [hexit] at hup
      rw [hup] at h
      rw [resolvers_of_turns hswitches.turns, hswitches.turns.chain, Chain.put,
        Table.get?_insert, if_pos hexit.symm, h]
      constructor
      · intro hafter other hother _
        cases hswitches.up.symm.trans hother.up
        have hsame : current.tunnel.resolvers = tunnel.resolvers := by
          simpa [resolversAfter, Exchange.onResolvers, Call.onResolvers] using hafter
        exact (Tunnel.resolvers_eq_iff hreplaceable).mp hsame.symm
      · intro hkeep
        have hsame := (Tunnel.resolvers_eq_iff hreplaceable).mpr (hkeep current hswitches hexit)
        simp only [Option.map_some, hsame]
        rfl
    · refine iff_of_true ?_ fun current hcurrent => absurd ⟨current, hcurrent⟩ hswitches
      rw [resolvers_of_turns hturns, hturns.chain]
      generalize hresult : (activate Memory.engine.transcribed now tunnel controller).1 = result
        at hactivation
      cases hactivation.success (clean_of_turns hturns hclean).2 with
      | overlong _ => exact h
      | switched _ hup hswitch => exact absurd ⟨_, hup, hswitch, hresult⟩ hswitches
      | built hnext =>
        rw [resolversAfter_append, resolversAfter_buildScript, if_pos hexit, hnext, Chain.put,
          Table.get?_insert, if_pos hexit.symm, hname, hexit]
        rfl
  · refine iff_of_true ?_ fun _ _ hexit' => absurd hexit' hexit
    rw [resolvers_of_turns hturns, hturns.chain, h, hactivation.get?_other (Ne.symm hexit),
      resolversAfter_of_concerns _ hexit (hactivation.concerns hname hnamed)]

theorem exchanges_prefix_undergo (occurrence : Occurrence) :
    controller.system.exchanges <+: (controller.undergo naming occurrence).system.exchanges := by
  have hturns {before next : Controller (Transcript Memory)} {xs : List Exchange} {chain : Chain}
      {said : List HopEvent} (h : Turns Memory.engine.transcribed before xs chain said next) :
      before.system.exchanges <+: next.system.exchanges := by
    rw [h.runs.of_transcribed.2.1]
    exact List.prefix_append _ _
  cases occurrence with
  | event event hspared => exact List.prefix_rfl
  | operation operation =>
    refine operate_induction (P := fun later : Controller (Transcript Memory) =>
      controller.system.exchanges <+: later.system.exchanges)
      (fun _ _ _ h => h) (fun _ h => h) ?_ List.prefix_rfl ?_
    · intro before hop announce hbefore
      obtain ⟨xs, next, said, -, hlaw⟩ :=
        deactivate_law Memory.engine.transcribed hop announce before
      exact hbefore.trans (hturns hlaw)
    · intro now body tunnel _ _
      obtain ⟨xs, next, said, -, hlaw⟩ :=
        activate_law Memory.engine.transcribed now tunnel controller
      exact hturns hlaw

theorem clean_after_of_initial {memory : Memory} {played run : List Occurrence}
    (hplayed : played <+: run) (hclean : Clean (after naming memory run).system.exchanges) :
    Clean (after naming memory played).system.exchanges := by
  obtain ⟨rest, rfl⟩ := hplayed
  induction rest using List.reverseRecOn with
  | nil => rwa [List.append_nil] at hclean
  | append_singleton rest last ih =>
    rw [← List.append_assoc, after_append_singleton] at hclean
    exact ih (hclean.of_initial (exchanges_prefix_undergo last))

/-- **Name servers after switches.** Throughout a run in which no call fails the name servers are
those of the exit hop's tunnel, if and only if every switch of the exit hop in place keeps the
choice of IPv6. -/
theorem directed_iff_switches_keep_ipv6 {memory : Memory} (hresolvers : memory.resolvers = none)
    {run : List Occurrence} (hclean : Clean (after naming memory run).system.exchanges) :
    (∀ played, played <+: run → (after naming memory played).Directed naming) ↔
      ∀ played last, played ++ [last] <+: run →
        (after naming memory played).SwitchesWithin
          (fun tunnel current => tunnel.hop = 0 → tunnel.ipv6Enabled = current.ipv6Enabled)
          naming last := by
  have hinvariant : (∀ played, played <+: run → (after naming memory played).Directed naming) ↔
      ∀ played, played <+: run → Clean (after naming memory played).system.exchanges →
        (after naming memory played).Directed naming :=
    forall₂_congr fun played hplayed =>
      ⟨fun h _ => h, fun h => h (clean_after_of_initial hplayed hclean)⟩
  refine hinvariant.trans (forall_prefix_iff (P := fun later : Controller (Transcript Memory) =>
    Clean later.system.exchanges → later.Directed naming)
    (fun _ => hresolvers) fun played last hplayed h => ?_)
  have hnamed := named_after naming memory played
  have hbefore := clean_after_of_initial ((List.prefix_append _ _).trans hplayed) hclean
  have hafter := clean_after_of_initial hplayed hclean
  rw [after_append_singleton] at hafter
  refine undergo_iff (P := fun later : Controller (Transcript Memory) =>
    Clean later.system.exchanges → later.Directed naming)
    (fun _ _ _ h => h) (fun _ h => h) ?_ ?_ ?_ hnamed h
  · intro before hop announce hnamed h hlater
    obtain ⟨xs, next, said, -, hturns⟩ :=
      deactivate_law Memory.engine.transcribed hop announce before
    exact directed_deactivate hnamed (h (clean_of_turns hturns hlater).1) hlater
  · rintro event hspared rfl -
    exact (Memory.resolvers_happen _ event).trans (h hbefore)
  · rintro now body tunnel rfl hbody
    rw [undergo_activate hbody] at hafter
    exact (forall_prop_of_true hafter).trans
      (directed_activate_iff hnamed (Tunnel.name_of_ofBody hbody) (h hbefore) hafter)

/-- An exit hop is switched to another server, a relay comes up, and the exit hop goes down. -/
def otherServer : List Occurrence :=
  let other : TunnelRequest := { plainRequest 0 "AA==" with publicKey := "CC==" }
  [.operation (.activate "then" (plainBody 0 "AA==")),
    .operation (.activate "later" (ClientMessage.activate other).toJson),
    .operation (.activate "now" (plainBody 2 "AA==")), .operation (.deactivate 0 true)]

theorem directed_iff_otherServer :
    Memory.fresh.resolvers = none ∧
      Clean (after ⟨"hl"⟩ Memory.fresh otherServer).system.exchanges ∧
      (after ⟨"hl"⟩ Memory.fresh otherServer).chain.keys = [2] ∧
      ((∀ played, played <+: otherServer →
          (after ⟨"hl"⟩ Memory.fresh played).Directed ⟨"hl"⟩) ↔
        ∀ played last, played ++ [last] <+: otherServer →
          (after ⟨"hl"⟩ Memory.fresh played).SwitchesWithin
            (fun tunnel current => tunnel.hop = 0 → tunnel.ipv6Enabled = current.ipv6Enabled)
            ⟨"hl"⟩ last) := by
  have hclean : Clean (after ⟨"hl"⟩ Memory.fresh otherServer).system.exchanges := by
    decide +kernel
  exact ⟨rfl, hclean, by decide +kernel, directed_iff_switches_keep_ipv6 rfl hclean⟩

/-- IPv6 is switched on for an exit hop that is up. -/
def ipv6Enabling : List Occurrence :=
  let enabling : TunnelRequest := { plainRequest 0 "AA==" with ipv6Enabled := true }
  [.operation (.activate "then" (plainBody 0 "AA==")),
    .operation (.activate "now" (ClientMessage.activate enabling).toJson)]

/-- No call fails, but the IPv6 name server of the tunnel that is up is not used. -/
theorem not_directed_ipv6Enabling :
    Clean (after ⟨"hl"⟩ Memory.fresh ipv6Enabling).system.exchanges ∧
      ((after ⟨"hl"⟩ Memory.fresh ipv6Enabling).chain.get? 0).map
        (fun active => active.tunnel.resolvers) = some ["10.0.0.1", "fd00::1"] ∧
      (after ⟨"hl"⟩ Memory.fresh ipv6Enabling).system.system.resolvers =
        some ("hl", ["10.0.0.1"]) ∧
      ¬(after ⟨"hl"⟩ Memory.fresh ipv6Enabling).Directed ⟨"hl"⟩ := by
  have hwanted : ((after ⟨"hl"⟩ Memory.fresh ipv6Enabling).chain.get? 0).map
      (fun active => active.tunnel.resolvers) = some ["10.0.0.1", "fd00::1"] := by
    decide +kernel
  have hused : (after ⟨"hl"⟩ Memory.fresh ipv6Enabling).system.system.resolvers =
      some ("hl", ["10.0.0.1"]) := by
    decide +kernel
  refine ⟨by decide +kernel, hwanted, hused, fun hdirected => ?_⟩
  obtain ⟨active, hactive, hresolvers⟩ := Option.map_eq_some_iff.mp hwanted
  rw [Directed, hactive, hused, Option.map_some, hresolvers] at hdirected
  exact absurd hdirected (by decide +kernel)

end Resolvers

end Controller

end TunnelChain
