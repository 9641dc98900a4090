import TunnelChain.Proofs.Attending
import TunnelChain.Proofs.Broadcast
import TunnelChain.Proofs.Fitting
import TunnelChain.Proofs.Releasing
import TunnelChain.Proofs.Request

/-!
# A plan from end to end

The messages of a plan, sent over a connection to a service that has just started, bring up exactly
the plan's chain, the entry first, so that each relay routes the server next to it before a tunnel
to that server is built. The stop that follows takes everything down again.
-/

namespace TunnelChain

open Json

/-! ## From a plan to tunnels -/

/-- What the interface of a tunnel is to be: up, with the server's key as its peer, and the ranges
that count as its routes. -/
def TunnelRequest.interface (request : TunnelRequest) : Interface :=
  ⟨some request.publicKey, request.keptRanges.map RangeEntry.text, true, ⟨0, 0⟩⟩

namespace Tunnel

variable {nameOf : HopIndex → String} {request : TunnelRequest} {tunnel : Tunnel}

theorem interface_of_ofRequest (h : ofRequest nameOf request = .ok tunnel) :
    tunnel.interface = request.interface := by
  obtain ⟨ranges, hranges, rfl⟩ := eq_of_ofRequest h
  rw [interface, AddressRange.map_text_of_mapM hranges]
  rfl

end Tunnel

/-- Whether these are the tunnels that a plan asks for, the exit first. -/
def Plan.Describes (plan : Plan) (naming : Naming) (tunnels : List Tunnel) : Prop :=
  List.Forall₂ (fun request tunnel => Tunnel.ofRequest naming.name request = .ok tunnel)
    plan.requests
    tunnels

namespace Plan.Describes

variable {plan : Plan} {naming : Naming} {tunnels : List Tunnel}

theorem exists_of_accepted (h : ∀ request ∈ plan.requests,
    ∃ tunnel, Tunnel.ofRequest naming.name request = .ok tunnel) :
    ∃ tunnels, plan.Describes naming tunnels := by
  unfold Describes
  generalize plan.requests = requests at h
  induction requests with
  | nil => exact ⟨[], .nil⟩
  | cons request rest ih =>
    obtain ⟨⟨tunnel, htunnel⟩, hrest⟩ := List.forall_mem_cons.mp h
    obtain ⟨tunnels, htunnels⟩ := ih hrest
    exact ⟨tunnel :: tunnels, .cons htunnel htunnels⟩

theorem map_hop (h : plan.Describes naming tunnels) :
    tunnels.map Tunnel.hop = (List.range plan.hopCount).map UInt32.ofNat := by
  have hhops : tunnels.map Tunnel.hop = (plan.requests.map (·.hop)).map (·.getD 0) := by
    unfold Describes at h
    generalize plan.requests = requests at h
    induction h with
    | nil => rfl
    | cons hfirst _ ih =>
      rw [List.map_cons, List.map_cons, List.map_cons, Tunnel.hop_of_ofRequest hfirst, ih]
  rw [hhops, map_hop_requests, List.map_map]
  rfl

theorem nodup (h : plan.Describes naming tunnels) (hcount : plan.hopCount ≤ UInt32.size) :
    (tunnels.map Tunnel.hop).Nodup := by
  rw [h.map_hop]
  refine List.Nodup.map_on (fun left hleft right hright heq => ?_) List.nodup_range
  rw [List.mem_range] at hleft hright
  have hnat := congrArg UInt32.toNat heq
  rwa [UInt32.toNat_ofNat_of_lt' (hleft.trans_le hcount),
    UInt32.toNat_ofNat_of_lt' (hright.trans_le hcount)] at hnat

theorem hop_eq (h : plan.Describes naming tunnels) {index : Nat} {tunnel : Tunnel}
    (htunnel : tunnels[index]? = some tunnel) :
    tunnel.hop = .ofNat index ∧ index < plan.hopCount := by
  have hget := congrArg (·[index]?) h.map_hop
  simp only [List.getElem?_map, htunnel, Option.map_some] at hget
  obtain ⟨number, hnumber, heq⟩ := Option.map_eq_some_iff.mp hget.symm
  obtain ⟨hlt, rfl⟩ := List.getElem?_eq_some_iff.mp hnumber
  rw [List.length_range] at hlt
  rw [List.getElem_range] at heq
  exact ⟨heq.symm, hlt⟩

theorem exists_tunnel (h : plan.Describes naming tunnels) {index : Nat} {request : TunnelRequest}
    (hrequest : plan.requests[index]? = some request) :
    ∃ tunnel, tunnels[index]? = some tunnel ∧
      Tunnel.ofRequest naming.name request = .ok tunnel := by
  obtain ⟨hlt, rfl⟩ := List.getElem?_eq_some_iff.mp hrequest
  have hlt' : index < tunnels.length := hlt.trans_eq h.length_eq
  exact ⟨tunnels[index], List.getElem?_eq_getElem hlt', h.get hlt hlt'⟩

theorem exists_request (h : plan.Describes naming tunnels) {index : Nat} {tunnel : Tunnel}
    (htunnel : tunnels[index]? = some tunnel) :
    ∃ request, plan.requests[index]? = some request ∧
      Tunnel.ofRequest naming.name request = .ok tunnel := by
  obtain ⟨hlt, rfl⟩ := List.getElem?_eq_some_iff.mp htunnel
  have hlt' : index < plan.requests.length := hlt.trans_eq h.length_eq.symm
  exact ⟨plan.requests[index], List.getElem?_eq_getElem hlt', h.get hlt' hlt⟩

end Plan.Describes

theorem Chain.Lists.mem_hops {chain : Chain} {up : List Tunnel} (h : chain.Lists up)
    {hop : HopIndex} :
    hop ∈ chain.hops ↔ hop ∈ up.map Tunnel.hop := by
  rw [Chain.mem_hops, ← Option.isSome_iff_exists, ← Option.isSome_map (f := ActiveHop.tunnel), h,
    List.find?_isSome, List.mem_map]
  simp only [decide_eq_true_eq]

namespace Service

/-- Whether exactly the hops of a plan are up, each on an interface of its own, with the name
servers of the exit. -/
structure Serves (plan : Plan) (service : Service (Transcript Memory)) : Prop where
  hops : service.core.controller.chain.hops = firstHops plan.hopCount
  tunnel : ∀ index request, plan.requests[index]? = some request →
    ∃ active, service.core.controller.chain.get? (.ofNat index) = some active ∧
      Tunnel.ofRequest service.naming.name request = .ok active.tunnel
  interface : ∀ index request, plan.requests[index]? = some request →
    ∃ server, plan.servers[index]? = some server ∧
      service.core.controller.system.system.interfaces.get? (service.naming.name (.ofNat index)) =
        some ⟨some server.publicKey, request.keptRanges.map RangeEntry.text, true, ⟨0, 0⟩⟩
  own : ∀ name, service.core.controller.system.system.interfaces.contains name = true →
    ∃ index < plan.hopCount, name = service.naming.name (.ofNat index)
  resolvers : ∀ exit ∈ plan.servers.head?, service.core.controller.system.system.resolvers =
    some (service.naming.stem,
      if plan.ipv6Enabled then [exit.gatewayIpv4, exit.gatewayIpv6] else [exit.gatewayIpv4])

variable {plan : Plan} {memory : Memory} {tunnels : List Tunnel}
  {service : Service (Transcript Memory)}

theorem Stacked.serves (h : service.Stacked memory tunnels)
    (hplan : plan.Describes service.naming tunnels) : service.Serves plan where
  hops := by
    ext hop
    rw [h.chain.mem_hops, hplan.map_hop, firstHops]
    simp
  tunnel index request hrequest := by
    obtain ⟨tunnel, htunnel, hok⟩ := hplan.exists_tunnel hrequest
    have hfind := find?_hop_of_mem h.nodup (List.mem_of_getElem? htunnel)
    rw [← h.chain, (hplan.hop_eq htunnel).1, Option.map_eq_some_iff] at hfind
    obtain ⟨active, hactive, rfl⟩ := hfind
    exact ⟨active, hactive, hok⟩
  interface index request hrequest := by
    obtain ⟨tunnel, htunnel, hok⟩ := hplan.exists_tunnel hrequest
    obtain ⟨server, device, ranges, hserver, hasked⟩ := Plan.exists_request_of_getElem? hrequest
    have hfind := find?_hop_of_mem h.nodup (List.mem_of_getElem? htunnel)
    rw [(hplan.hop_eq htunnel).1] at hfind
    refine ⟨server, hserver, ?_⟩
    rw [h.system.interfaces, find?_name h.named, hfind, Option.map_some,
      Tunnel.interface_of_ofRequest hok, TunnelRequest.interface, hasked]
    rfl
  own name hname := by
    obtain ⟨interface, hinterface⟩ := Table.contains_iff.mp hname
    rw [h.system.interfaces] at hinterface
    obtain ⟨tunnel, hfind, -⟩ := Option.map_eq_some_iff.mp hinterface
    obtain ⟨index, htunnel⟩ := List.mem_iff_getElem?.mp (List.mem_of_find?_eq_some hfind)
    obtain ⟨hhop, hlt⟩ := hplan.hop_eq htunnel
    have heq : tunnel.name = name := by simpa using List.find?_some hfind
    exact ⟨index, hlt, by rw [← heq, h.named tunnel (List.mem_of_getElem? htunnel), hhop]⟩
  resolvers exit hexit := by
    have hasked : plan.requests[0]? = some (plan.request 0 plan.device exit plan.ranges) := by
      obtain ⟨relays, hservers⟩ := List.head?_eq_some_iff.mp hexit
      rw [Plan.requests, hservers]
      rfl
    obtain ⟨tunnel, htunnel, hok⟩ := hplan.exists_tunnel hasked
    have hname := Tunnel.name_of_ofRequest hok
    have hfind := find?_hop_of_mem h.nodup (List.mem_of_getElem? htunnel)
    obtain ⟨ranges, -, rfl⟩ := Tunnel.eq_of_ofRequest hok
    rw [h.system.resolvers]
    exact congrArg (Option.map _) hfind

/-- Whether each interface was created when the next tunnel outward, if there is one, already routed
the server that the new tunnel leads to. -/
def Routed (plan : Plan) (naming : Naming) (memory : Memory) (xs : List Exchange) : Prop :=
  ∀ before created answer after, xs = before ++ .call (.addInterface created) answer :: after →
    ∃ index server, created.hop = .ofNat index ∧ plan.servers[index]? = some server ∧
      (index + 1 < plan.hopCount → ∃ middle interface, Memory.engine.Runs memory before middle ∧
        middle.interfaces.get? (naming.name (.ofNat (index + 1))) = some interface ∧
        server.addressIpv4 ++ "/32" ∈ interface.routes)

/-- A relay routes the server next to it on the way to the exit. -/
theorem mem_routes {naming : Naming} {index : Nat} {inner : Server} {request : TunnelRequest}
    {tunnel : Tunnel} (hinner : plan.servers[index]? = some inner)
    (hrequest : plan.requests[index + 1]? = some request)
    (hok : Tunnel.ofRequest naming.name request = .ok tunnel) :
    inner.addressIpv4 ++ "/32" ∈ tunnel.interface.routes := by
  rw [Plan.getElem?_requests_succ, hinner, Option.bind_some] at hrequest
  obtain ⟨server, -, rfl⟩ := Option.map_eq_some_iff.mp hrequest
  have hkept : RangeEntry.host inner.addressIpv4 false ∈
      (plan.request (.ofNat (index + 1)) (Plan.relayDevice (.ofNat (index + 1))) server
        (Plan.relayRanges server inner)).keptRanges := by
    refine List.mem_filter.mpr ⟨?_, rfl⟩
    simp [Plan.request, Plan.relayRanges]
  rw [Tunnel.interface_of_ofRequest hok]
  refine List.mem_map.mpr ⟨_, hkept, ?_⟩
  have hlength : toString (32 : UInt32).toNat = "32" := by decide
  change inner.addressIpv4 ++ "/" ++ toString (32 : UInt32).toNat = inner.addressIpv4 ++ "/32"
  rw [hlength, String.append_assoc]
  rfl

theorem routed_of_laid {naming : Naming} {xs : List Exchange} (h : Laid memory tunnels xs)
    (hplan : plan.Describes naming tunnels) : Routed plan naming memory xs := by
  intro before created answer after hxs
  obtain ⟨below, middle, ⟨above, rfl⟩, hruns, hbears⟩ := h before created answer after hxs
  have hcreated : (above ++ created :: below)[above.length]? = some created := by simp
  obtain ⟨request, hrequest, -⟩ := hplan.exists_request hcreated
  obtain ⟨server, _, _, hserver, -⟩ := Plan.exists_request_of_getElem? hrequest
  refine ⟨above.length, server, (hplan.hop_eq hcreated).1, hserver, fun hrelay => ?_⟩
  have hlength := hplan.length_eq
  rw [plan.length_requests, List.length_append, List.length_cons] at hlength
  obtain - | ⟨tunnel, rest⟩ := below
  · rw [List.length_nil] at hlength
    omega
  have htunnel : (above ++ created :: tunnel :: rest)[above.length + 1]? = some tunnel := by simp
  obtain ⟨asked, hasked, hok⟩ := hplan.exists_request htunnel
  refine ⟨middle, tunnel.interface, hruns, ?_, mem_routes hserver hasked hok⟩
  rw [← (hplan.hop_eq htunnel).1, ← Tunnel.name_of_ofRequest hok, hbears.interfaces,
    List.find?_cons_of_pos (by simp)]
  rfl

/-- A service that starts on a system without interfaces has nothing up. -/
theorem start_stacked (naming : Naming) (capacity : Nat)
    (hinterfaces : memory.interfaces = Table.empty) (hresolvers : memory.resolvers = none) :
    ∃ service, start Memory.engine.transcribed naming capacity (.blank memory) = (.ok (), service) ∧
      service.Stacked memory [] ∧ service.naming = naming ∧
      Laid memory [] service.core.controller.system.exchanges := by
  obtain ⟨interfaces, resolvers, failing, isAlive, supportsSwitching⟩ := memory
  obtain rfl : interfaces = Table.empty := hinterfaces
  obtain rfl : resolvers = none := hresolvers
  refine ⟨_, rfl,
    ⟨rfl, rfl, List.forall_mem_nil _, List.nodup_nil, fun _ => rfl, ⟨fun _ => rfl, rfl⟩,
    .look (naming.name 0) (.nil _)⟩, rfl, ?_⟩
  rintro before created answer after hxs
  have hmem :
      Exchange.call (.addInterface created) answer ∈ [Exchange.look (naming.name 0) false] := by
    rw [show [Exchange.look (naming.name 0) false] = _ from hxs]
    exact List.mem_append_right _ List.mem_cons_self
  cases List.mem_singleton.mp hmem

/-- What comes down to nothing is as it was before. -/
theorem Stacked.restored (h : service.Stacked memory [])
    (hinterfaces : memory.interfaces = Table.empty) (hresolvers : memory.resolvers = none) :
    service.core.controller.chain = Table.empty ∧
      service.core.controller.system.system = memory := by
  have hchain (hop : HopIndex) : service.core.controller.chain.get? hop = none :=
    Option.map_eq_none_iff.mp (h.chain hop)
  have hsetting := Memory.setting_of_runs h.runs
  have hnone := Table.eq_empty_of_get? fun name => h.system.interfaces name
  have hlast := h.system.resolvers
  refine ⟨Table.eq_empty_of_get? hchain, ?_⟩
  generalize service.core.controller.system.system = after at hsetting hnone hlast
  obtain ⟨interfaces, resolvers, failing, isAlive, supportsSwitching⟩ := after
  obtain ⟨interfaces', resolvers', failing', isAlive', supportsSwitching'⟩ := memory
  simp only [Memory.setting, Memory.mk.injEq, true_and]
    at hsetting hnone hlast hinterfaces hresolvers
  simp [hsetting, hnone, hlast, hinterfaces, hresolvers]

end Service

/-! ## Over a connection -/

/-- Whether messages that are written to a connection arrive like this, each with the time at which
it is handled, and leave this to be read. -/
def Inbox.Conveys (inbox : Inbox) (messages : List ClientMessage)
    (arrivals : List (String × Parcel)) (next : Inbox) : Prop :=
  ∃ chunks : List Bytes, chunks.flatten = messages.flatMap ClientMessage.encode ∧
    arrivals.map (·.2) = parcels (inbox.feedAll chunks).1.flatten ∧ (inbox.feedAll chunks).2 = next

theorem Inbox.Conveys.of_empty {messages : List ClientMessage} {arrivals : List (String × Parcel)}
    {next : Inbox} (h : Inbox.empty.Conveys messages arrivals next) :
    arrivals.map (·.2) = messages.map (fun message => (Message.client message).parcel) ∧
      next = Inbox.empty := by
  obtain ⟨chunks, hchunks, harrivals, rfl⟩ := h
  have hstream : chunks.flatten = (messages.map Message.client).flatMap Message.encode := by
    rw [hchunks, List.flatMap_map]
    rfl
  obtain ⟨hparcels, hrest⟩ := Message.parcels_feedAll hstream
  rw [harrivals, hparcels, List.map_map]
  exact ⟨rfl, hrest⟩

/-- Messages that are written one by one arrive one by one. -/
theorem Inbox.conveys_parcels (messages : List ClientMessage) (now : String) :
    Inbox.empty.Conveys messages
      (messages.map fun message => (now, (Message.client message).parcel))
      .empty := by
  have hstream : (messages.map ClientMessage.encode).flatten =
      (messages.map Message.client).flatMap Message.encode := by
    rw [List.flatMap_map, ← List.flatMap_def]
    rfl
  obtain ⟨hparcels, hrest⟩ := Message.parcels_feedAll hstream
  refine ⟨messages.map ClientMessage.encode, (List.flatMap_def ..).symm, ?_, hrest⟩
  rw [hparcels, List.map_map, List.map_map]
  rfl

namespace Plan.Describes

variable {plan : Plan} {naming : Naming} {tunnels : List Tunnel}

theorem size_name_le (h : plan.Describes naming tunnels) (hcount : plan.hopCount ≤ 100)
    (hstem : Utf8.size naming.stem + 5 ≤ Naming.maxBytes) :
    ∀ tunnel ∈ tunnels, Utf8.size tunnel.name ≤ Naming.maxBytes := by
  intro tunnel hmem
  obtain ⟨index, htunnel⟩ := List.mem_iff_getElem?.mp hmem
  obtain ⟨request, -, hok⟩ := h.exists_request htunnel
  obtain ⟨hhop, hlt⟩ := h.hop_eq htunnel
  have hfew : tunnel.hop.toNat < 100 := by
    rw [hhop, UInt32.toNat_ofNat_of_lt' ((hlt.trans_le hcount).trans (by decide))]
    omega
  rw [Tunnel.name_of_ofRequest hok]
  exact (naming.size_name_le hfew).trans hstem

/-- The activations of a plan describe its tunnels, the entry's first. -/
theorem rising (h : plan.Describes naming tunnels) {arrivals : List (String × Parcel)}
    (harrivals : arrivals.map (·.2) = plan.messages.map fun message =>
      (Message.client message).parcel) :
    List.Forall₂ (fun arrival tunnel => arrival.2.kind = "activate" ∧
      Tunnel.ofBody naming.name arrival.2.body = .ok tunnel) arrivals tunnels.reverse := by
  have hparcels : List.Forall₂ (fun (parcel : Parcel) tunnel => parcel.kind = "activate" ∧
      Tunnel.ofBody naming.name parcel.body = .ok tunnel) (arrivals.map (·.2)) tunnels.reverse := by
    rw [harrivals, Plan.messages, List.map_map, List.forall₂_map_left_iff]
    refine (List.forall₂_reverse_iff.mpr h).imp fun request tunnel hok => ⟨rfl, ?_⟩
    exact (Tunnel.ofBody_parcel naming.name request).trans hok
  exact List.forall₂_map_left_iff.mp hparcels

theorem falling (h : plan.Describes naming tunnels) {arrivals : List (String × Parcel)}
    (harrivals : arrivals.map (·.2) = ((List.range plan.hopCount).map UInt32.ofNat).map fun hop =>
      (Message.client (.deactivate (some hop))).parcel) :
    List.Forall₂ (fun arrival tunnel => arrival.2.kind = "deactivate" ∧
      hopHint arrival.2.body = tunnel.hop) arrivals tunnels := by
  have hparcels :
      List.Forall₂ (fun (parcel : Parcel) (tunnel : Tunnel) => parcel.kind = "deactivate" ∧
      hopHint parcel.body = tunnel.hop) (arrivals.map (·.2)) tunnels := by
    rw [harrivals, ← h.map_hop, List.map_map, List.forall₂_map_left_iff, List.forall₂_same]
    exact fun tunnel _ => ⟨rfl, hopHint_deactivate (some tunnel.hop)⟩
  exact List.forall₂_map_left_iff.mp hparcels

end Plan.Describes

namespace Session

variable {τ : Type}

/-- A session that only listens stays ready and keeps count of its hops. -/
theorem run_handle {session : Session τ} (hready : session.phase = .ready) (heard : List Parcel) :
    (session.run (heard.map .handle)).2.phase = .ready ∧
      (session.run (heard.map .handle)).2.hopCount = session.hopCount := by
  induction heard generalizing session with
  | nil => exact ⟨hready, rfl⟩
  | cons parcel rest ih =>
    obtain ⟨-, hcount, hphase⟩ := session.handle_law parcel
    obtain ⟨hphase', hcount'⟩ := ih (hphase hready)
    exact ⟨hphase', hcount'.trans hcount⟩

end Session

namespace Service

variable {τ : Type}

/-- **A plan from end to end.** On a system in memory where nothing fails, the messages of a plan
whose activations are all in order bring up exactly the plan's chain, in whatever chunks they
arrive: clients are told of the hops from the entry to the exit, and each interface was created when
the next one outward routed the server already. The stop that follows tells of the hops from the
exit to the entry, and leaves no hop up and the system as it was. -/
theorem attend_plan {naming : Naming} (hstem : Settings.stemFault? naming.stem = none)
    {plan : Plan} (hservers : plan.servers ≠ []) (hcount : plan.hopCount ≤ 100)
    (haccepted : ∀ message ∈ plan.messages, ∃ tunnel,
      Tunnel.ofBody naming.name (Message.client message).parcel.body = .ok tunnel)
    {memory : Memory} (hfailing : memory.failing = [])
    (hinterfaces : memory.interfaces = Table.empty) (hresolvers : memory.resolvers = none)
    {session : Session τ} (hready : session.phase = .ready) (heard : List Parcel)
    {rising falling : List (String × Parcel)} {inbox last : Inbox}
    (hrising : Inbox.empty.Conveys (session.activate plan).1.outbound rising inbox)
    (hfalling : inbox.Conveys
      (((session.activate plan).2.run (heard.map .handle)).2.deactivate .stop).1.outbound
        falling last)
    (capacity : Nat) :
    let engine := Memory.engine.transcribed
    ∃ service, start engine naming capacity (.blank memory) = (.ok (), service) ∧
      let risen := service.attend engine rising
      let fallen := risen.state.attend engine falling
      risen.replies = [] ∧
      risen.events = (List.range plan.hopCount).reverse.map (fun hop => .connected (.ofNat hop)) ∧
      risen.state.Serves plan ∧
      Routed plan naming memory risen.state.core.controller.system.exchanges ∧
      fallen.replies = [] ∧
      fallen.events = (List.range plan.hopCount).map (fun hop => .disconnected (.ofNat hop)) ∧
      fallen.state.core.controller.chain = Table.empty ∧
      fallen.state.core.controller.system.system = memory := by
  obtain ⟨houtbound, hactivated⟩ := Session.activate_granted hready hservers
  rw [houtbound] at hrising
  obtain ⟨hrisen, rfl⟩ := hrising.of_empty
  have hstays : (session.activate plan).2.phase = .ready := by
    rw [hactivated]
    exact hready
  obtain ⟨hphase, hheld⟩ := Session.run_handle hstays heard
  rw [(Session.deactivate_stop hphase).1, hheld, hactivated] at hfalling
  obtain ⟨hfallen, -⟩ := hfalling.of_empty
  rw [List.map_map] at hfallen
  obtain ⟨tunnels, hplan⟩ : ∃ tunnels, plan.Describes naming tunnels := by
    refine Plan.Describes.exists_of_accepted fun request hrequest => ?_
    rw [← Tunnel.ofBody_parcel]
    exact haccepted _ (List.mem_map_of_mem (List.mem_reverse.mpr hrequest))
  have hnodup := hplan.nodup (hcount.trans (by decide))
  have hshort := hplan.size_name_le hcount (Settings.size_of_stemFault? hstem)
  obtain ⟨service, hstart, hstacked, hnaming, hlaid⟩ :=
    start_stacked naming capacity hinterfaces hresolvers
  obtain ⟨risen, hrisen, hup, hreplies, hevents, hkept, hlaid⟩ := hstacked.pushAll hfailing hnaming
    (hplan.rising hrisen) (fun tunnel htunnel => hshort tunnel (List.mem_reverse.mp htunnel))
    (by rwa [List.reverse_reverse, List.append_nil]) hlaid
  rw [List.reverse_reverse, List.append_nil] at hup hlaid
  obtain ⟨fallen, hfallen, hdown, hreplies', hevents'⟩ :=
    hup.popAll hfailing (hplan.falling hfallen)
  have hhops (event : HopIndex → DaemonMessage) : tunnels.map (fun tunnel => event tunnel.hop) =
      (List.range plan.hopCount).map fun hop => event (.ofNat hop) := by
    have hmap := congrArg (List.map event) hplan.map_hop
    rwa [List.map_map, List.map_map] at hmap
  refine ⟨service, hstart, ?_⟩
  dsimp only
  rw [hrisen, hfallen]
  refine ⟨hreplies, ?_, ?_, routed_of_laid hlaid hplan, hreplies', ?_,
    hdown.restored hinterfaces hresolvers⟩
  · rw [hevents, List.map_reverse, hhops, List.map_reverse]
  · exact hup.serves (by rwa [hkept])
  · rw [hevents', hhops]

/-- A plan through three servers, with a range that counts only where IPv6 is enabled. -/
def threeServers : Plan :=
  ⟨"AA==", ⟨"10.0.0.2/32", "fd00::2/128"⟩,
    [Session.plainServer,
      { Session.plainServer with publicKey := "CC==", addressIpv4 := "203.0.113.6" },
      { Session.plainServer with publicKey := "DD==", addressIpv4 := "203.0.113.7" }],
    [⟨"0.0.0.0", 0, false⟩, ⟨"::", 0, true⟩], false⟩

def readySession : Session Unit :=
  ⟨.ready, 0, none⟩

def timed (messages : List ClientMessage) : List (String × Parcel) :=
  messages.map fun message => ("now", (Message.client message).parcel)

theorem attend_threeServers :
    Settings.stemFault? "hl" = none ∧ threeServers.hopCount = 3 ∧
      ∃ service, start Memory.engine.transcribed ⟨"hl"⟩ 10 (.blank .fresh) = (.ok (), service) ∧
        let risen := service.attend Memory.engine.transcribed (timed threeServers.messages)
        let fallen := risen.state.attend Memory.engine.transcribed
          (timed [.deactivate (some 0), .deactivate (some 1), .deactivate (some 2)])
        risen.events = [.connected 2, .connected 1, .connected 0] ∧
        risen.state.Serves threeServers ∧
        Routed threeServers ⟨"hl"⟩ .fresh risen.state.core.controller.system.exchanges ∧
        fallen.events = [.disconnected 0, .disconnected 1, .disconnected 2] ∧
        fallen.state.core.controller.system.system = .fresh := by
  have hok : ∀ message ∈ threeServers.messages, (Tunnel.ofBody (Naming.mk "hl").name
      (Message.client message).parcel.body).isOk = true := by decide +kernel
  have haccepted : ∀ message ∈ threeServers.messages, ∃ tunnel, Tunnel.ofBody (Naming.mk "hl").name
      (Message.client message).parcel.body = .ok tunnel := by
    intro message hmessage
    have hmessage := hok message hmessage
    cases hbody : Tunnel.ofBody (Naming.mk "hl").name (Message.client message).parcel.body with
    | ok tunnel => exact ⟨tunnel, rfl⟩
    | error error =>
      rw [hbody] at hmessage
      cases hmessage
  have hstem : Settings.stemFault? (Naming.mk "hl").stem = none := by decide
  have hfailing : Memory.fresh.failing = [] := rfl
  have hready : readySession.phase = .ready := rfl
  refine ⟨hstem, rfl, ?_⟩
  obtain ⟨service, hstart, -, hevents, hserves, hrouted, -, hfallen, -, hrestored⟩ :=
    attend_plan hstem (by decide) (by decide) haccepted hfailing rfl rfl hready
      [(Message.daemon (.connected 0)).parcel] (Inbox.conveys_parcels _ "now")
      (Inbox.conveys_parcels _ "now") 10
  exact ⟨service, hstart, hevents, hserves, hrouted, hfallen, hrestored⟩

end Service

end TunnelChain
