import TunnelChain.Proofs.Layout
import TunnelChain.Proofs.Recovery
import TunnelChain.Proofs.Request

/-!
# Where the packets to a peer go

What a tunnel sends to its peer must not be routed into the tunnel. The way to the peer is looked
for when the peer is set: for a tunnel that is built this is before its routes are there, for one
that is switched in place they are there already, and are what is found.
-/

namespace TunnelChain

/-- Whether a tunnel is the exit hop's and has its peer at an IPv4 address that none of its ranges
is alone. -/
structure Tunnel.Outward (tunnel : Tunnel) (address : BitVec 32) : Prop where
  exit : tunnel.hop = 0
  peer : Ip.parseV4? tunnel.serverIpv4 = some address
  apart : ∀ range ∈ tunnel.ranges, range.family = .ipv4 → range.length = 32 →
    Ip.parseV4? range.address ≠ some address

/-- Whether a layout has no route through the tunnel for the address alone that has a host route. -/
def Layout.Apart (layout : Layout) : Prop :=
  ∀ address, layout.pin = some address → Subnet.host (.v4 address) ∉ layout.routes

section Layouts

variable {layout : Layout} {address : BitVec 32} {name now : String} {tunnel : Tunnel}
  {chain next : Chain} {result : Except OperationError Unit} {xs : List Exchange}
  {said : List HopEvent} {switching : Bool}

theorem Layout.Apart.unpin (h : layout.Apart) : layout.unpin = ⟨none, layout.routes⟩ := by
  unfold Layout.unpin
  cases hpin : layout.pin with
  | none => exact congrArg (Layout.mk · layout.routes) hpin
  | some address =>
    refine congrArg (Layout.mk none)
      (List.filter_eq_self.mpr fun subnet hsubnet => decide_eq_true ?_)
    rintro rfl
    exact h address hpin hsubnet

theorem Layout.apart_repin (layout : Layout) (address : BitVec 32) :
    (layout.repin address).Apart := by
  intro other hother hmem
  unfold Layout.repin at hother hmem
  split at hother
  · cases (layout.pin_unpin).symm.trans hother
  · rename_i htakes
    obtain rfl := Option.some.inj hother
    rw [if_neg htakes] at hmem
    exact htakes (Layout.takes_iff.mpr ⟨32, Nat.le_refl 32, hmem⟩)

theorem Layout.Apart.routes_repin (h : layout.Apart) (address : BitVec 32) :
    (layout.repin address).routes = layout.routes := by
  unfold Layout.repin
  rw [h.unpin]
  split <;> rfl

/-- Once the routes take an address in, it gets no host route that would lead it out again. -/
theorem Layout.Apart.diverts_repin (h : layout.Apart) :
    (layout.repin address).Diverts address ↔ layout.Takes address := by
  have htakes : layout.unpin.Takes address ↔ layout.Takes address := by rw [h.unpin]; rfl
  constructor
  · rintro ⟨hrepin, -⟩
    unfold Layout.Takes at hrepin ⊢
    rwa [h.routes_repin] at hrepin
  · intro hlayout
    have hrepin : layout.repin address = layout.unpin := if_pos (htakes.mpr hlayout)
    rw [hrepin]
    exact (Layout.diverts_of_pin layout.pin_unpin).mpr (htakes.mpr hlayout)

theorem Layout.Apart.not_diverts (h : layout.Apart) (hpin : layout.pin = some address) :
    ¬ layout.Diverts address :=
  fun hdiverts => h address hpin (hdiverts.2 hpin)

theorem Tunnel.Outward.apart_subnets (h : tunnel.Outward address)
    (hranges : ∀ range ∈ tunnel.ranges, Ip.isText range.family range.address = true) :
    Layout.Apart ⟨some address, tunnel.subnets⟩ := by
  rintro other hother hmem
  obtain rfl := Option.some.inj hother
  obtain ⟨range, hrange, hsubnet⟩ := List.mem_flatMap.mp hmem
  obtain ⟨hfamily, hlength, haddress⟩ :=
    AddressRange.eq_host_of_mem_subnets (hranges range hrange) hsubnet
  exact h.apart range hrange hfamily hlength haddress

theorem AddressRange.isText_of_mapM {entries : List RangeEntry} {ranges : List AddressRange}
    (h : entries.mapM ofEntry = .ok ranges) :
    ∀ range ∈ ranges, Ip.isText range.family range.address = true := by
  have hall := forall₂_of_mapM h
  clear h
  induction hall with
  | nil => exact List.forall_mem_nil _
  | cons hfirst _ ih =>
    obtain ⟨haddress, -, rfl⟩ := ofEntry_eq_ok_iff.mp hfirst
    exact List.forall_mem_cons.mpr ⟨haddress, ih⟩

theorem Tunnel.isText_of_ofBody {nameOf : HopIndex → String} {body : Json}
    (h : ofBody nameOf body = .ok tunnel) :
    ∀ range ∈ tunnel.ranges, Ip.isText range.family range.address = true := by
  obtain ⟨request, -, hrequest⟩ := exists_request_of_ofBody h
  obtain ⟨ranges, hranges, rfl⟩ := eq_of_ofRequest hrequest
  exact AddressRange.isText_of_mapM hranges

/-! ## What an operation does to a layout -/

theorem Clearing.suits (h : Clearing name result xs) : ∀ x ∈ xs, x.Suits name := by
  cases h <;> simp [Exchange.Suits]

theorem Clearing.routes_onLayout (h : Clearing name result xs) (layout : Layout) :
    (xs.foldl Exchange.onLayout layout).routes = [] := by
  cases h <;> rfl

theorem suits_restoring (hop : HopIndex) (name : String) :
    ∀ x ∈ granted (restoring hop), x.Suits name := by
  unfold restoring
  split
  · exact List.forall_mem_singleton.mpr trivial
  · exact List.forall_mem_nil _

theorem onLayout_restoring (hop : HopIndex) (layout : Layout) :
    (granted (restoring hop)).foldl Exchange.onLayout layout = layout := by
  unfold restoring
  split <;> rfl

section Teardown

variable {hop : HopIndex} {announce : Bool}

theorem Teardown.suits (h : Teardown hop announce chain result xs next said)
    (hname : ∀ active, chain.get? hop = some active → active.tunnel.name = name) :
    ∀ x ∈ xs, x.Suits name := by
  cases h with
  | inactive hdown => exact List.forall_mem_nil _
  | unrestored hup hexit => exact List.forall_mem_singleton.mpr trivial
  | undeleted hup =>
    refine List.forall_mem_append.mpr ⟨suits_restoring hop name, ?_⟩
    simp [Exchange.Suits, hname _ hup]
  | vanished hup =>
    exact List.forall_mem_append.mpr
      ⟨suits_restoring hop name, List.forall_mem_singleton.mpr (hname _ hup)⟩
  | removed hup =>
    refine List.forall_mem_append.mpr ⟨suits_restoring hop name, ?_⟩
    simp [Exchange.Suits, hname _ hup]

/-- After a teardown the layout is what it was, or has no routes through the tunnel. -/
theorem Teardown.apart_onLayout (h : Teardown hop announce chain result xs next said)
    (hapart : layout.Apart) :
    (xs.foldl Exchange.onLayout layout).Apart := by
  cases h with
  | inactive hdown => exact hapart
  | unrestored hup hexit => exact hapart
  | undeleted hup =>
    rw [List.foldl_append, onLayout_restoring]
    exact fun _ _ => List.not_mem_nil
  | vanished hup =>
    rw [List.foldl_append, onLayout_restoring]
    exact fun _ _ => List.not_mem_nil
  | removed hup =>
    rw [List.foldl_append, onLayout_restoring]
    exact fun _ _ => List.not_mem_nil

end Teardown

theorem suits_buildScript (hpeer : Ip.parseV4? tunnel.serverIpv4 = some address)
    (hranges : ∀ range ∈ tunnel.ranges, Ip.isText range.family range.address = true) :
    ∀ x ∈ granted tunnel.buildScript, x.Suits tunnel.name := by
  refine List.forall_mem_map.mpr fun call hcall => ?_
  simp only [Tunnel.buildScript, List.mem_append, List.mem_map, List.mem_cons, List.not_mem_nil,
    or_false] at hcall
  rcases hcall with (((rfl | rfl) | hresolvers) | rfl | rfl) | ⟨range, hrange, rfl⟩
  · trivial
  · exact ⟨rfl, Option.isSome_iff_exists.mpr ⟨address, hpeer⟩⟩
  · split at hresolvers
    · rw [List.mem_singleton.mp hresolvers]
      trivial
    · cases hresolvers
  · trivial
  · trivial
  · exact ⟨rfl, hranges range hrange⟩

theorem onLayout_addRoutePrefixes (name : String) (ranges : List AddressRange) (layout : Layout) :
    (granted (ranges.map (.addRoutePrefix name))).foldl Exchange.onLayout layout =
      { layout with routes := layout.routes ++ ranges.flatMap AddressRange.subnets } := by
  induction ranges generalizing layout with
  | nil =>
    rw [List.flatMap_nil, List.append_nil]
    rfl
  | cons range rest ih =>
    rw [List.flatMap_cons, ← List.append_assoc]
    exact ih { layout with routes := layout.routes ++ range.subnets }

/-- A tunnel is built with a host route to its peer, which is looked for before the routes through
the tunnel are there. -/
theorem onLayout_buildScript (hpeer : Ip.parseV4? tunnel.serverIpv4 = some address)
    (hroutes : layout.routes = []) :
    (granted tunnel.buildScript).foldl Exchange.onLayout layout =
      ⟨some address, tunnel.subnets⟩ := by
  -- A host route that an earlier tunnel has left behind is replaced.
  have hapart : layout.Apart := fun _ _ => by rw [hroutes]; exact List.not_mem_nil
  have htakes : ¬ layout.unpin.Takes address := by
    rw [hapart.unpin, hroutes]
    rintro ⟨subnet, hmem, -⟩
    cases hmem
  have hrepin : layout.repin address = ⟨some address, []⟩ := by
    unfold Layout.repin
    rw [if_neg htakes, hapart.unpin, hroutes]
  have hopened :
      (granted [.addInterface tunnel, .configureInterface tunnel]).foldl Exchange.onLayout layout =
        ⟨some address, []⟩ := by
    rw [← hrepin]
    simp [granted, Exchange.onLayout, hpeer]
  have hresolvers :
      (granted (if tunnel.hop = 0 then
        [.updateResolvers tunnel.name tunnel.resolvers] else [])).foldl
      Exchange.onLayout ⟨some address, []⟩ = ⟨some address, []⟩ := by
    split <;> rfl
  rw [Tunnel.buildScript, granted_append, granted_append, granted_append, List.foldl_append,
    List.foldl_append, List.foldl_append, hopened, hresolvers, onLayout_addRoutePrefixes]
  rfl

theorem Building.suits_and_onLayout (h : Building now tunnel chain result xs next said)
    (hclean : Clean xs) (hpeer : Ip.parseV4? tunnel.serverIpv4 = some address)
    (hranges : ∀ range ∈ tunnel.ranges, Ip.isText range.family range.address = true)
    (layout : Layout) :
    result = .ok () ∧ (∀ x ∈ xs, x.Suits tunnel.name) ∧
      xs.foldl Exchange.onLayout layout = ⟨some address, tunnel.subnets⟩ := by
  obtain ⟨rfl, -, -, ys, rfl, hclear⟩ := h.of_clean hclean
  refine ⟨rfl, List.forall_mem_append.mpr ⟨hclear.suits, suits_buildScript hpeer hranges⟩, ?_⟩
  rw [List.foldl_append]
  exact onLayout_buildScript hpeer (hclear.routes_onLayout layout)

inductive Lays (switching : Bool) (tunnel : Tunnel) (address : BitVec 32) (chain : Chain)
    (layout : Layout) :
    Except OperationError Unit → Layout → Prop where
  | refused (error : OperationError) :
      Lays switching tunnel address chain layout (.error error) layout
  | switched (hreplaces : chain.Replaces switching tunnel) :
      Lays switching tunnel address chain layout (.ok ()) (layout.repin address)
  | built (hanew : ¬ chain.Replaces switching tunnel) :
      Lays switching tunnel address chain layout (.ok ()) ⟨some address, tunnel.subnets⟩

theorem Lays.apart {after : Layout} (h : Lays switching tunnel address chain layout result after)
    (houtward : tunnel.Outward address)
    (hranges : ∀ range ∈ tunnel.ranges, Ip.isText range.family range.address = true)
    (hapart : layout.Apart) :
    after.Apart := by
  cases h with
  | refused error => exact hapart
  | switched hreplaces => exact layout.apart_repin address
  | built hanew => exact houtward.apart_subnets hranges

/-- The address of a peer is routed through the tunnel itself if the peer is changed in place to one
that the routes take in. -/
theorem Lays.diverts_iff {after : Layout}
    (h : Lays switching tunnel address chain layout (.ok ()) after)
    (houtward : tunnel.Outward address)
    (hranges : ∀ range ∈ tunnel.ranges, Ip.isText range.family range.address = true)
    (hapart : layout.Apart) :
    after.Diverts address ↔ chain.Replaces switching tunnel ∧ layout.Takes address := by
  cases h with
  | switched hreplaces => exact hapart.diverts_repin.trans (and_iff_right hreplaces).symm
  | built hanew =>
    exact iff_of_false ((houtward.apart_subnets hranges).not_diverts rfl) fun hboth => hanew hboth.1

theorem Activation.lays (h : Activation switching now tunnel chain result xs next said)
    (hclean : Clean xs) (hpeer : Ip.parseV4? tunnel.serverIpv4 = some address)
    (hranges : ∀ range ∈ tunnel.ranges, Ip.isText range.family range.address = true)
    (hname : ∀ active, chain.get? tunnel.hop = some active → active.tunnel.name = tunnel.name)
    (layout : Layout) :
    (∀ x ∈ xs, x.Suits tunnel.name) ∧
      Lays switching tunnel address chain layout result (xs.foldl Exchange.onLayout layout) := by
  cases h with
  | overlong hlong => exact ⟨List.forall_mem_nil _, .refused _⟩
  | fresh hshort hdown hbuild =>
    obtain ⟨rfl, hsuits, hlayout⟩ := hbuild.suits_and_onLayout hclean hpeer hranges layout
    refine ⟨hsuits, hlayout ▸ .built ?_⟩
    rintro ⟨current, hup, -⟩
    cases hdown.symm.trans hup
  | switched hshort hup hswitch =>
    have hlayout :
        [Exchange.call (.configureInterface tunnel) (.ok ())].foldl Exchange.onLayout layout =
          layout.repin address := by
      simp [Exchange.onLayout, hpeer]
    rw [hlayout]
    exact ⟨List.forall_mem_singleton.mpr ⟨rfl, Option.isSome_iff_exists.mpr ⟨address, hpeer⟩⟩,
      .switched ⟨_, hup, hswitch⟩⟩
  | unswitched hshort hup hswitch => exact absurd hclean (not_clean_error _ _)
  | kept hshort hup hswitch hteardown hgone =>
    rcases hteardown.of_clean hclean with ⟨hdown, -⟩ | ⟨-, hgone'⟩
    · cases hup.symm.trans hdown
    · cases hgone.symm.trans hgone'
  | @rebuilt current end_ _ before ys _ _ hshort hup hswitch hteardown hgone hbuild =>
    obtain ⟨rfl, hsuits, hlayout⟩ :=
      hbuild.suits_and_onLayout hclean.of_append.2 hpeer hranges
        (before.foldl Exchange.onLayout layout)
    rw [List.foldl_append, hlayout]
    refine ⟨List.forall_mem_append.mpr ⟨hteardown.suits hname, hsuits⟩, .built ?_⟩
    rintro ⟨other, hother, hreplaces⟩
    cases hup.symm.trans hother
    cases hswitch.symm.trans hreplaces

end Layouts

/-! ## Runs -/

/-- Whether a tunnel that an operation asks for is one of the exit hop with its peer at an address
of its own. -/
def Operation.Outward (naming : Naming) : Operation → Prop
  | .activate _ body =>
    ∀ tunnel, Tunnel.ofBody naming.name body = .ok tunnel → ∃ address, tunnel.Outward address
  | _ => True

/-- Whether an address is in a subnet that is routed through a device on its own. -/
def RouteTable.LeadsInto (table : RouteTable) (device : String) (ip : Ip) : Prop :=
  ∃ subnet, table subnet = some ⟨none, device⟩ ∧ subnet.Covers ip

/-- A controller that has started on a Linux system, after a run. -/
def Linux.after {ρ : Type} (settings : LinuxSettings) (run : Runner ρ) (naming : Naming)
    (commands : ρ) (operations : List Operation) : Controller (Transcript (Linux ρ)) :=
  operations.foldl (Controller.operate (engine settings run).transcribed naming)
    (.fresh (.blank (.fresh commands)))

def Controller.routing {ρ : Type} (table : ρ → RouteTable)
    (controller : Controller (Transcript (Linux ρ))) : RouteTable :=
  table controller.system.system.commands

section Runs

variable {ρ : Type} {settings : LinuxSettings} {run : Runner ρ} {table : ρ → RouteTable}
  {uplink : Uplink} {naming : Naming} {name : String}
  {controller next : Controller (Transcript (Linux ρ))} {layout : Layout}
  {xs : List Exchange} {chain : Chain} {said : List HopEvent} {address : BitVec 32} {body : Json}
  {tunnel : Tunnel}

theorem Layout.routed_iff {subnet : Subnet} :
    layout.table uplink name subnet = some ⟨none, name⟩ ↔ subnet ∈ layout.routes := by
  refine ⟨fun h => ?_, Layout.table_of_mem⟩
  by_contra hmem
  unfold Layout.table RouteTable.onlyDefault at h
  rw [if_neg hmem] at h
  split_ifs at h <;> cases h

theorem Fits.leadsInto_iff {host : Linux ρ} (h : Fits table uplink name layout host) :
    (table host.commands).LeadsInto name (.v4 address) ↔ layout.Takes address := by
  unfold RouteTable.LeadsInto Layout.Takes
  rw [h.table]
  exact exists_congr fun subnet => and_congr_left fun _ => Layout.routed_iff

namespace Controller

theorem Turns.clean
    (hturns : Turns (Linux.engine settings run).transcribed controller xs chain said next)
    (hclean : Clean next.system.exchanges) : Clean controller.system.exchanges ∧ Clean xs := by
  rw [hturns.runs.of_transcribed.2.1] at hclean
  exact hclean.of_append

theorem Turns.fits
    (hturns : Turns (Linux.engine settings run).transcribed controller xs chain said next)
    (hfooting : Footing run table uplink name) (hsuits : ∀ x ∈ xs, x.Suits name) (hclean : Clean xs)
    (h : Fits table uplink name layout controller.system.system) :
    Fits table uplink name (xs.foldl Exchange.onLayout layout) next.system.system :=
  h.runs hfooting hturns.runs.of_transcribed.1 hsuits hclean

/-- Whether no hop but the exit is up, and the system is laid out for it as long as no call has
failed. -/
structure Founded (table : ρ → RouteTable) (uplink : Uplink) (naming : Naming)
    (controller : Controller (Transcript (Linux ρ))) : Prop where
  named : controller.chain.Named naming
  alone : ∀ hop active, controller.chain.get? hop = some active → hop = 0
  fits : Clean controller.system.exchanges →
    ∃ layout : Layout, layout.Apart ∧
      Fits table uplink (naming.name 0) layout controller.system.system

theorem Founded.names (h : Founded table uplink naming controller) {hop : HopIndex}
    {active : ActiveHop}
    (hup : controller.chain.get? hop = some active) : active.tunnel.name = naming.name 0 := by
  obtain rfl := h.alone hop active hup
  exact h.named 0 active hup

theorem founded_start (commands : ρ) (hstart : table commands = .onlyDefault uplink.route) :
    Founded table uplink naming (.fresh (.blank (.fresh commands))) where
  named _ _ hactive := nomatch hactive
  alone _ _ hactive := nomatch hactive
  fits _ := by
    refine ⟨⟨none, []⟩, (fun _ haddress => nomatch haddress), ?_, fun other => ?_,
      List.forall_mem_nil _⟩
    · funext subnet
      change table commands subnet = _
      rw [hstart, Layout.table_of_not_mem List.not_mem_nil]
      exact fun _ haddress => nomatch haddress
    · change none = _
      split <;> rfl

variable (hfooting : Footing run table uplink (naming.name 0))

include hfooting

theorem Founded.deactivate (h : Founded table uplink naming controller) (hop : HopIndex)
    (announce : Bool) :
    Founded table uplink naming
      (deactivate (Linux.engine settings run).transcribed hop announce controller).2 := by
  obtain ⟨xs, chain, said, hteardown, hturns⟩ :=
    deactivate_law (Linux.engine settings run).transcribed hop announce controller
  refine ⟨?_, fun other active hactive => ?_, fun hclean => ?_⟩
  · rw [hturns.chain]
    exact hteardown.named h.named
  · rw [hturns.chain] at hactive
    exact h.alone other active (hteardown.kept h.named hactive).1
  · obtain ⟨hbefore, hclean⟩ := hturns.clean hclean
    obtain ⟨layout, hapart, hfits⟩ := h.fits hbefore
    have hsuits := hteardown.suits fun active hup => h.names hup
    exact ⟨_, hteardown.apart_onLayout hapart, hturns.fits hfooting hsuits hclean hfits⟩

/-- An activation in which no call fails leads from one layout to another. -/
theorem Founded.lays (h : Founded table uplink naming controller)
    (hbody : Tunnel.ofBody naming.name body = .ok tunnel) (houtward : tunnel.Outward address)
    {now : String} {result : Except OperationError Unit}
    (hactivate : controller.activate (Linux.engine settings run).transcribed now tunnel =
      (result, next))
    (hclean : Clean next.system.exchanges) :
    ∃ layout after : Layout, layout.Apart ∧
      Fits table uplink (naming.name 0) layout controller.system.system ∧
      Fits table uplink (naming.name 0) after next.system.system ∧
      Lays true tunnel address controller.chain layout result after := by
  obtain ⟨xs, chain, said, hactivation, hturns⟩ :=
    activate_law (Linux.engine settings run).transcribed now tunnel controller
  rw [hactivate] at hactivation hturns
  obtain ⟨hbefore, hclean⟩ := hturns.clean hclean
  obtain ⟨layout, hapart, hfits⟩ := h.fits hbefore
  have htunnel : tunnel.name = naming.name 0 := by
    rw [Tunnel.name_of_ofBody hbody, houtward.exit]
  obtain ⟨hsuits, hlays⟩ := hactivation.lays hclean houtward.peer (Tunnel.isText_of_ofBody hbody)
    (fun active hup => (h.names hup).trans htunnel.symm) layout
  rw [htunnel] at hsuits
  exact ⟨layout, _, hapart, hfits, hturns.fits hfooting hsuits hclean hfits, hlays⟩

theorem Founded.activate (h : Founded table uplink naming controller)
    (hbody : Tunnel.ofBody naming.name body = .ok tunnel) (houtward : tunnel.Outward address)
    (now : String) :
    Founded table uplink naming
      (activate (Linux.engine settings run).transcribed now tunnel controller).2 := by
  obtain ⟨xs, chain, said, hactivation, hturns⟩ :=
    activate_law (Linux.engine settings run).transcribed now tunnel controller
  refine ⟨?_, fun hop active hactive => ?_, fun hclean => ?_⟩
  · rw [hturns.chain]
    exact hactivation.named (Tunnel.name_of_ofBody hbody) h.named
  · by_contra hother
    rw [hturns.chain, hactivation.get?_other (houtward.exit ▸ hother)] at hactive
    exact hother (h.alone hop active hactive)
  · obtain ⟨layout, after, hapart, -, hfits, hlays⟩ := h.lays hfooting hbody houtward rfl hclean
    exact ⟨after, hlays.apart houtward (Tunnel.isText_of_ofBody hbody) hapart, hfits⟩

theorem Founded.operate (h : Founded table uplink naming controller) {operation : Operation}
    (houtward : operation.Outward naming) :
    Founded table uplink naming
      (controller.operate (Linux.engine settings run).transcribed naming operation) := by
  refine operate_induction (fun _ _ _ h => ⟨h.named, h.alone, h.fits⟩)
    (fun _ h => ⟨h.named, h.alone, h.fits⟩)
    (fun _ hop announce h => h.deactivate hfooting hop announce) h ?_
  rintro now body tunnel rfl hbody
  obtain ⟨address, haddress⟩ := houtward tunnel hbody
  exact h.activate hfooting hbody haddress now

theorem founded_after {commands : ρ} (hstart : table commands = .onlyDefault uplink.route)
    {operations : List Operation} (houtward : ∀ operation ∈ operations, operation.Outward naming) :
    Founded table uplink naming (Linux.after settings run naming commands operations) := by
  induction operations using List.reverseRecOn with
  | nil => exact founded_start commands hstart
  | append_singleton operations last ih =>
    obtain ⟨hearlier, hlast⟩ := List.forall_mem_append.mp houtward
    have hafter : Linux.after settings run naming commands (operations ++ [last]) =
        (Linux.after settings run naming commands operations).operate
          (Linux.engine settings run).transcribed
          naming last := List.foldl_append
    rw [hafter]
    exact (ih hearlier).operate hfooting (hlast last (List.mem_singleton_self last))

/-- A tunnel that is built has its own subnets routed through it; a tunnel that is switched in place
has those it had before. -/
theorem Founded.routes_activate (h : Founded table uplink naming controller)
    (hbody : Tunnel.ofBody naming.name body = .ok tunnel) (houtward : tunnel.Outward address)
    {now : String}
    (hactivate : controller.activate (Linux.engine settings run).transcribed now tunnel =
      (.ok (), next))
    (hclean : Clean next.system.exchanges) (subnet : Subnet) :
    next.routing table subnet = some ⟨none, naming.name 0⟩ ↔
      (controller.chain.Replaces true tunnel ∧
        controller.routing table subnet = some ⟨none, naming.name 0⟩) ∨
        (¬ controller.chain.Replaces true tunnel ∧ subnet ∈ tunnel.subnets) := by
  obtain ⟨layout, after, hapart, hbefore, hafter, hlays⟩ :=
    h.lays hfooting hbody houtward hactivate hclean
  unfold routing
  rw [hbefore.table, hafter.table, Layout.routed_iff, Layout.routed_iff]
  cases hlays with
  | switched hreplaces => simp [hreplaces, hapart.routes_repin]
  | built hanew => simp [hanew]

end Controller

/-- **Where the packets to a peer go.** The address of a peer that has been activated is routed
through the tunnel itself exactly if the peer was changed in place while the routes through the
tunnel took in its address. Otherwise it is routed over the uplink. -/
theorem Linux.leads_back_iff (hfooting : Footing run table uplink (naming.name 0)) {commands : ρ}
    (hstart : table commands = .onlyDefault uplink.route) {operations : List Operation}
    (hoperations : ∀ operation ∈ operations, operation.Outward naming)
    {before : Controller (Transcript (Linux ρ))}
    (hbefore : before = after settings run naming commands operations)
    (hbody : Tunnel.ofBody naming.name body = .ok tunnel) (houtward : tunnel.Outward address)
    {now : String}
    (hactivate : before.activate (engine settings run).transcribed now tunnel = (.ok (), next))
    (hclean : Clean next.system.exchanges) :
    ((next.routing table).find (.v4 address) = some ⟨none, naming.name 0⟩ ↔
      before.chain.Replaces true tunnel ∧
        (before.routing table).LeadsInto (naming.name 0) (.v4 address)) ∧
    (¬ (before.chain.Replaces true tunnel ∧
      (before.routing table).LeadsInto (naming.name 0) (.v4 address)) →
      (next.routing table).find (.v4 address) = some uplink.route) := by
  have hfounded : before.Founded table uplink naming :=
    hbefore ▸ Controller.founded_after hfooting hstart hoperations
  obtain ⟨layout, last, hapart, hfits, hafter, hlays⟩ :=
    hfounded.lays hfooting hbody houtward hactivate hclean
  have hdiverts : last.Diverts address ↔
      before.chain.Replaces true tunnel ∧
        (before.routing table).LeadsInto (naming.name 0) (.v4 address) := by
    rw [hlays.diverts_iff houtward (Tunnel.isText_of_ofBody hbody) hapart]
    exact and_congr_right fun _ => hfits.leadsInto_iff.symm
  have hfind : (next.routing table).find (.v4 address) =
      some (if last.Diverts address then ⟨none, naming.name 0⟩ else uplink.route) := by
    rw [Controller.routing, hafter.table]
    exact Layout.find_table uplink (naming.name 0) address hafter.proper
  rw [hfind, ← hdiverts]
  refine ⟨?_, fun hover => by rw [if_neg hover]⟩
  by_cases hback : last.Diverts address
  · simp [hback]
  · simp [hback, Uplink.route]

end Runs

def plainSettings : LinuxSettings :=
  ⟨1420, .standard, fun _ _ _ => .permanent "unknown host"⟩

def homeUplink : Uplink :=
  ⟨"192.168.1.1", "eth0", by decide +kernel, by decide +kernel⟩

/-- A system with no link but that of the uplink. -/
def home : Net where
  table := .onlyDefault homeUplink.route
  links := [homeUplink.device]
  linked subnet route hroute := by
    unfold RouteTable.onlyDefault at hroute
    split at hroute
    · cases hroute
      exact List.mem_singleton_self _
    · cases hroute

theorem footing_homeUplink : Footing Net.run Net.table homeUplink (Naming.name ⟨"hl"⟩ 0) :=
  ⟨Net.routes_run, by decide +kernel, by decide +kernel⟩

theorem ofBody_plainBody : Tunnel.ofBody (Naming.name ⟨"hl"⟩) (plainBody 0 "AA==") =
    .ok (plainTunnel ⟨"hl"⟩ 0 "AA==") := by
  decide +kernel

/-- The peer is at 203.0.113.5. -/
theorem outward_plainTunnel : (plainTunnel ⟨"hl"⟩ 0 "AA==").Outward 0xCB007105#32 :=
  ⟨by decide +kernel, by decide +kernel, by decide +kernel⟩

def overHome : Controller (Transcript (Linux Net)) :=
  Linux.after plainSettings Net.run ⟨"hl"⟩ home [.activate "then" (plainBody 0 "AA==")]

/-- The tunnel with its peer at another address, 198.51.100.7. -/
def otherPeer : Json :=
  (ClientMessage.activate { plainRequest 0 "AA==" with serverIpv4 := "198.51.100.7" }).toJson

def otherPeerTunnel : Tunnel :=
  (Tunnel.ofBody (Naming.name ⟨"hl"⟩) otherPeer).toOption.getD default

def switchedPeer : Except OperationError Unit × Controller (Transcript (Linux Net)) :=
  overHome.activate (Linux.engine plainSettings Net.run).transcribed "now" otherPeerTunnel

theorem leads_back_otherPeer : switchedPeer.1 = .ok () ∧ Clean switchedPeer.2.system.exchanges ∧
    (switchedPeer.2.routing Net.table).find (.v4 0xC6336407#32) = some ⟨none, "hl"⟩ := by
  have hoperations : ∀ operation ∈ [Operation.activate "then" (plainBody 0 "AA==")],
      operation.Outward ⟨"hl"⟩ := by
    refine List.forall_mem_singleton.mpr fun tunnel htunnel => ⟨0xCB007105#32, ?_⟩
    cases ofBody_plainBody.symm.trans htunnel
    exact outward_plainTunnel
  have hbody :
      Tunnel.ofBody (Naming.name ⟨"hl"⟩) otherPeer = .ok otherPeerTunnel := by decide +kernel
  have houtward : otherPeerTunnel.Outward 0xC6336407#32 :=
    ⟨by decide +kernel, by decide +kernel, by decide +kernel⟩
  have hgranted : switchedPeer.1 = .ok () ∧
      Clean switchedPeer.2.system.exchanges := by decide +kernel
  obtain ⟨hok, hclean⟩ := hgranted
  have hcurrent :
      overHome.chain.get? otherPeerTunnel.hop = some ⟨plainTunnel ⟨"hl"⟩ 0 "AA==", "then"⟩ := by
    decide +kernel
  have hreplaces : overHome.chain.Replaces true otherPeerTunnel := ⟨_, hcurrent, by decide +kernel⟩
  have hinto : (overHome.routing Net.table).LeadsInto (Naming.name ⟨"hl"⟩ 0) (.v4 0xC6336407#32) :=
    ⟨⟨.ipv4, 1, 1⟩, by decide +kernel, by decide +kernel⟩
  have hback := Linux.leads_back_iff footing_homeUplink rfl hoperations rfl hbody houtward
    (Prod.ext hok rfl : switchedPeer = (.ok (), switchedPeer.2)) hclean
  exact ⟨hok, hclean, hback.1.mpr ⟨hreplaces, hinto⟩⟩

/-- A tunnel is activated once more as it is. -/
def repeatedly : Except OperationError Unit × Controller (Transcript (Linux Net)) :=
  overHome.activate (Linux.engine plainSettings Net.run).transcribed "now"
    (plainTunnel ⟨"hl"⟩ 0 "AA==")

/-- No call fails, and what the tunnel sends to its peer is routed into the tunnel. -/
theorem leads_back_repeatedly :
    Footing Net.run Net.table homeUplink (Naming.name ⟨"hl"⟩ 0) ∧
      Tunnel.ofBody (Naming.name ⟨"hl"⟩) (plainBody 0 "AA==") = .ok (plainTunnel ⟨"hl"⟩ 0 "AA==") ∧
      (plainTunnel ⟨"hl"⟩ 0 "AA==").Outward 0xCB007105#32 ∧
      (overHome.routing Net.table).find (.v4 0xCB007105#32) = some homeUplink.route ∧
      repeatedly.1 = .ok () ∧ Clean repeatedly.2.system.exchanges ∧
      (repeatedly.2.routing Net.table).find (.v4 0xCB007105#32) = some ⟨none, "hl"⟩ :=
  ⟨footing_homeUplink, ofBody_plainBody, outward_plainTunnel, by decide +kernel⟩

end TunnelChain
