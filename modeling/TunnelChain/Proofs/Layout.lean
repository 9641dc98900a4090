import TunnelChain.Proofs.Routing
import TunnelChain.Proofs.Transcript

/-!
# What is done to a routing table

A system that has one tunnel is laid out in one way: a default route over its uplink, the routes
through the tunnel, and a host route over the uplink for the address of the peer. Each call that
does not fail leads from one layout to another.
-/

namespace TunnelChain

/-! ## Layouts -/

/-- A way out of a system: a gateway and the device that leads there. -/
structure Uplink where
  gateway : String
  device : String
  isAddress : Ip.isText .ipv4 gateway = true
  isWord : IsWord device

def Uplink.route (uplink : Uplink) : Route :=
  ⟨some uplink.gateway, uplink.device⟩

theorem Uplink.gateway_isWord (uplink : Uplink) : IsWord uplink.gateway := by
  obtain ⟨value, hvalue⟩ := Option.isSome_iff_exists.mp uplink.isAddress
  exact Ip.isWord_of_parseV4? hvalue

/-- What the daemon has done to a routing table: the address that has a host route over the uplink,
and the subnets that are routed through the tunnel. -/
structure Layout where
  pin : Option (BitVec 32)
  routes : List Subnet

namespace Layout

variable {layout : Layout} {uplink : Uplink} {name : String} {address : BitVec 32}

/-- The routing table of a layout, the default route being over the uplink. Where a subnet is routed
both ways, it is routed through the tunnel. -/
def table (uplink : Uplink) (name : String) (layout : Layout) : RouteTable := fun subnet =>
  if subnet ∈ layout.routes then some ⟨none, name⟩
  else if layout.pin.map (fun address => Subnet.host (.v4 address)) = some subnet then
    some uplink.route
  else RouteTable.onlyDefault uplink.route subnet

def Takes (layout : Layout) (address : BitVec 32) : Prop :=
  ∃ subnet ∈ layout.routes, subnet.Covers (.v4 address)

instance (layout : Layout) (address : BitVec 32) : Decidable (layout.Takes address) :=
  inferInstanceAs (Decidable (∃ subnet ∈ layout.routes, subnet.Covers (.v4 address)))

theorem takes_iff :
    layout.Takes address ↔ ∃ length ≤ 32, Subnet.around (.v4 address) length ∈ layout.routes := by
  constructor
  · rintro ⟨subnet, hmem, hlength, hsubnet⟩
    exact ⟨subnet.length, hlength, hsubnet ▸ hmem⟩
  · rintro ⟨length, hlength, hmem⟩
    exact ⟨_, hmem, hlength, rfl⟩

theorem findSome?_eq_of_mem {α β : Type} {f : α → Option β} {value : β} {xs : List α}
    (hall : ∀ x ∈ xs, f x = none ∨ f x = some value) (hsome : ∃ x ∈ xs, f x = some value) :
    xs.findSome? f = some value := by
  cases hfind : xs.findSome? f with
  | none =>
    obtain ⟨x, hx, hvalue⟩ := hsome
    cases (List.findSome?_eq_none_iff.mp hfind x hx).symm.trans hvalue
  | some found =>
    obtain ⟨x, hx, hfound⟩ := List.exists_of_findSome?_eq_some hfind
    rcases hall x hx with hnone | hvalue
    · cases hnone.symm.trans hfound
    · exact hfound.symm.trans hvalue

theorem around_zero (address : BitVec 32) : Subnet.around (.v4 address) 0 = .everything := by
  have hbits : address.toNat >>> 32 = 0 := by
    rw [Nat.shiftRight_eq_div_pow]
    exact Nat.div_eq_of_lt address.isLt
  exact congrArg (Subnet.mk .ipv4 0) hbits

/-- Whether a layout routes an address through the tunnel, for all that it has a host route. -/
def Diverts (layout : Layout) (address : BitVec 32) : Prop :=
  layout.Takes address ∧ (layout.pin = some address → Subnet.host (.v4 address) ∈ layout.routes)

instance (layout : Layout) (address : BitVec 32) : Decidable (layout.Diverts address) :=
  inferInstanceAs (Decidable (_ ∧ (_ → _)))

theorem table_of_mem {subnet : Subnet} (h : subnet ∈ layout.routes) :
    layout.table uplink name subnet = some ⟨none, name⟩ :=
  if_pos h

theorem table_of_pin (h : layout.pin = some address)
    (hfree : Subnet.host (.v4 address) ∉ layout.routes) :
    layout.table uplink name (.host (.v4 address)) = some uplink.route := by
  rw [table, if_neg hfree, h]
  exact if_pos rfl

theorem table_of_not_mem {subnet : Subnet} (h : subnet ∉ layout.routes)
    (hpin : ∀ address, layout.pin = some address → subnet ≠ .host (.v4 address)) :
    layout.table uplink name subnet = RouteTable.onlyDefault uplink.route subnet := by
  rw [table, if_neg h, if_neg]
  intro hsubnet
  obtain ⟨address, haddress, rfl⟩ := Option.map_eq_some_iff.mp hsubnet
  exact hpin address haddress rfl

theorem onlyDefault_of_pos {subnet : Subnet} (h : 0 < subnet.length) (route : Route) :
    RouteTable.onlyDefault route subnet = none := by
  refine if_neg ?_
  rintro rfl
  exact absurd h (by decide)

theorem table_around {length : Nat} (hpositive : 0 < length)
    (hpin : layout.pin = some address → Subnet.host (.v4 address) ∈ layout.routes) :
    layout.table uplink name (.around (.v4 address) length) =
      if Subnet.around (.v4 address) length ∈ layout.routes then some ⟨none, name⟩ else none := by
  by_cases hmem : Subnet.around (.v4 address) length ∈ layout.routes
  · rw [table_of_mem hmem, if_pos hmem]
  · rw [if_neg hmem, table_of_not_mem hmem, onlyDefault_of_pos hpositive]
    intro other hother hhost
    obtain rfl : length = 32 := congrArg Subnet.length hhost
    obtain rfl := Subnet.host_v4_injective hhost
    exact hmem (hpin hother)

/-- The lengths of IPv4 subnets but that of everything, the longest first. -/
def lengths : List Nat :=
  ((List.range 32).map Nat.succ).reverse

theorem mem_lengths {length : Nat} : length ∈ lengths ↔ 0 < length ∧ length ≤ 32 := by
  simp only [lengths, List.mem_reverse, List.mem_map, List.mem_range]
  constructor
  · rintro ⟨n, hn, rfl⟩
    omega
  · rintro ⟨hpositive, hlength⟩
    exact ⟨length - 1, by omega, by omega⟩

theorem find_eq (table : RouteTable) (address : BitVec 32) : table.find (.v4 address) =
    (lengths.findSome? fun length => table (.around (.v4 address) length)).or
      (table .everything) := by
  have hrange : (List.range (Ip.v4 address).family.maxPrefixLength.succ).reverse =
      lengths ++ [0] := by
    rw [show (Ip.v4 address).family.maxPrefixLength = 32 from rfl, List.range_succ_eq_map,
      List.reverse_cons]
    rfl
  rw [RouteTable.find, hrange, List.findSome?_append, List.findSome?_singleton, around_zero]

theorem table_everything (hproper : ∀ subnet ∈ layout.routes, 0 < subnet.length) :
    layout.table uplink name .everything = some uplink.route := by
  have hfree : Subnet.everything ∉ layout.routes := fun hmem => absurd (hproper _ hmem) (by decide)
  rw [table_of_not_mem hfree fun _ _ heq =>
    absurd (congrArg Subnet.length heq) (by decide : (0 : Nat) ≠ 32)]
  exact if_pos rfl

section LongestMatch

variable (uplink : Uplink) (name : String) (address : BitVec 32)

theorem findSome?_lengths_of_takes (hproper : ∀ subnet ∈ layout.routes, 0 < subnet.length)
    (hpin : layout.pin = some address → Subnet.host (.v4 address) ∈ layout.routes)
    (htakes : layout.Takes address) :
    lengths.findSome? (fun length => layout.table uplink name (.around (.v4 address) length)) =
      some ⟨none, name⟩ := by
  obtain ⟨length, hlength, hsubnet⟩ := takes_iff.mp htakes
  refine findSome?_eq_of_mem (fun other hother => ?_)
    ⟨length, mem_lengths.mpr ⟨hproper _ hsubnet, hlength⟩, table_of_mem hsubnet⟩
  rw [table_around (mem_lengths.mp hother).1 hpin]
  split
  · exact .inr rfl
  · exact .inl rfl

theorem findSome?_lengths_of_not_takes
    (hpin : layout.pin = some address → Subnet.host (.v4 address) ∈ layout.routes)
    (htakes : ¬ layout.Takes address) :
    lengths.findSome? (fun length => layout.table uplink name (.around (.v4 address) length)) =
      none := by
  refine List.findSome?_eq_none_iff.mpr fun length hlength => ?_
  obtain ⟨hpositive, hbounded⟩ := mem_lengths.mp hlength
  rw [table_around hpositive hpin, if_neg]
  exact fun hsubnet => htakes (takes_iff.mpr ⟨length, hbounded, hsubnet⟩)

theorem find_of_pin (h : layout.pin = some address)
    (hfree : Subnet.host (.v4 address) ∉ layout.routes) :
    (layout.table uplink name).find (.v4 address) = some uplink.route := by
  have hfirst : lengths = 32 :: ((List.range 31).map Nat.succ).reverse := rfl
  have hhost : layout.table uplink name (.around (.v4 address) 32) = some uplink.route :=
    table_of_pin h hfree
  rw [find_eq, hfirst, List.findSome?_cons, hhost, Option.some_or]

/-- **The longest match.** An address takes the tunnel exactly if the layout diverts it, and the
uplink otherwise. -/
theorem find_table (hproper : ∀ subnet ∈ layout.routes, 0 < subnet.length) :
    (layout.table uplink name).find (.v4 address) =
      some (if layout.Diverts address then ⟨none, name⟩ else uplink.route) := by
  by_cases hpin : layout.pin = some address → Subnet.host (.v4 address) ∈ layout.routes
  · rw [find_eq, table_everything hproper]
    by_cases htakes : layout.Takes address
    · rw [if_pos ⟨htakes, hpin⟩, findSome?_lengths_of_takes uplink name address hproper hpin htakes,
        Option.some_or]
    · rw [if_neg fun hdiverts => htakes hdiverts.1,
        findSome?_lengths_of_not_takes uplink name address hpin htakes, Option.none_or]
  · -- No subnet is longer than that of the host route.
    obtain ⟨haddress, hfree⟩ := Classical.not_imp.mp hpin
    rw [if_neg fun hdiverts => hpin hdiverts.2, find_of_pin uplink name address haddress hfree]

end LongestMatch

end Layout

/-! ## What a call does to a layout -/

namespace Layout

variable {layout : Layout} {uplink : Uplink} {name : String} {address : BitVec 32}

def unpin (layout : Layout) : Layout :=
  match layout.pin with
  | none => layout
  -- The route is removed by its subnet: one through the tunnel that has taken its place goes
  -- instead.
  | some address => ⟨none, layout.routes.filter (· ≠ .host (.v4 address))⟩

/-- The layout with a host route for this address instead, unless the address is routed through the
tunnel. -/
def repin (layout : Layout) (address : BitVec 32) : Layout :=
  if layout.unpin.Takes address then layout.unpin else { layout.unpin with pin := some address }

theorem pin_unpin (layout : Layout) : layout.unpin.pin = none := by
  unfold unpin
  split
  · assumption
  · rfl

theorem diverts_of_pin (hpin : layout.pin = none) : layout.Diverts address ↔ layout.Takes address :=
  ⟨And.left, fun htakes => ⟨htakes, fun haddress => nomatch hpin.symm.trans haddress⟩⟩

theorem table_unpin (layout : Layout) :
    layout.unpin.table uplink name = (layout.table uplink name).release layout.pin := by
  unfold unpin
  cases hpin : layout.pin with
  | none => rfl
  | some address =>
    funext subnet
    unfold RouteTable.release table
    by_cases hsubnet : subnet = .host (.v4 address)
    · subst hsubnet
      have hpositive : 0 < (Subnet.host (.v4 address)).length := Nat.succ_pos 31
      simp [onlyDefault_of_pos hpositive]
    · have hother : (Subnet.host (.v4 address) = subnet) ↔ False :=
        iff_false_intro fun h => hsubnet h.symm
      simp [hsubnet, hother, hpin]

theorem table_pin (hpin : layout.pin = none) (htakes : ¬ layout.Takes address) :
    ({ layout with pin := some address } : Layout).table uplink name =
      Function.update (layout.table uplink name) (.host (.v4 address)) (some uplink.route) := by
  have hfree : Subnet.host (.v4 address) ∉ layout.routes :=
    fun hmem => htakes (takes_iff.mpr ⟨32, Nat.le_refl 32, hmem⟩)
  funext subnet
  by_cases hsubnet : subnet = .host (.v4 address)
  · subst hsubnet
    rw [Function.update_self]
    exact table_of_pin rfl hfree
  · rw [Function.update_of_ne hsubnet]
    unfold table
    rw [hpin]
    have hother : some (Subnet.host (.v4 address)) ≠ some subnet :=
      fun heq => hsubnet (Option.some.inj heq).symm
    simp only [Option.map_some, Option.map_none, if_neg hother,
      if_neg (Option.some_ne_none subnet).symm]

theorem table_route (layout : Layout) (subnet : Subnet) :
    ({ layout with routes := layout.routes ++ [subnet] } : Layout).table uplink name =
      Function.update (layout.table uplink name) subnet (some ⟨none, name⟩) := by
  funext other
  by_cases hother : other = subnet
  · rw [hother, Function.update_self]
    exact table_of_mem (List.mem_append_right _ (List.mem_singleton_self _))
  · rw [Function.update_of_ne hother]
    unfold table
    simp only [List.mem_append, List.mem_singleton, hother, or_false]

section Detach

variable (hdevice : uplink.device ≠ name) (hproper : ∀ subnet ∈ layout.routes, 0 < subnet.length)

include hdevice hproper

theorem detach_table {subnet : Subnet}
    (hfree : ∀ address, layout.pin = some address → subnet ≠ .host (.v4 address)) :
    (layout.table uplink name).detach name subnet = RouteTable.onlyDefault uplink.route subnet := by
  unfold RouteTable.detach
  by_cases hmem : subnet ∈ layout.routes
  · rw [table_of_mem hmem, onlyDefault_of_pos (hproper subnet hmem)]
    simp
  · rw [table_of_not_mem hmem hfree]
    unfold RouteTable.onlyDefault
    split
    · exact Option.filter_some_pos (decide_eq_true hdevice)
    · rfl

/-- Without the routes through the tunnel and without the host route nothing but the default route
is left. -/
theorem release_detach :
    ((layout.table uplink name).detach name).release layout.pin =
      RouteTable.onlyDefault uplink.route := by
  funext subnet
  cases hpin : layout.pin with
  | none => exact detach_table hdevice hproper fun _ haddress => nomatch hpin.symm.trans haddress
  | some address =>
    change Function.update ((layout.table uplink name).detach name) (.host (.v4 address)) none
      subnet = _
    by_cases hsubnet : subnet = .host (.v4 address)
    · rw [hsubnet, Function.update_self, onlyDefault_of_pos (Nat.succ_pos 31)]
    · rw [Function.update_of_ne hsubnet]
      refine detach_table hdevice hproper fun other hother => ?_
      rwa [← Option.some.inj (hpin.symm.trans hother)]

end Detach

end Layout

/-- What an exchange that does not fail does to a layout. -/
def Exchange.onLayout (layout : Layout) : Exchange → Layout
  | .call (.configureInterface tunnel) _ =>
    match Ip.parseV4? tunnel.serverIpv4 with
    | some address => layout.repin address
    | none => layout
  | .call (.deleteInterface _) _ => ⟨none, []⟩
  | .call (.addRoutePrefix _ range) _ => { layout with routes := layout.routes ++ range.subnets }
  | .call _ _ => layout
  | .look _ found => if found then layout else { layout with routes := [] }

/-- Whether an exchange is about one interface, and its peer, if it sets one, is at an IPv4
address. -/
def Exchange.Suits (name : String) : Exchange → Prop
  | .call (.configureInterface tunnel) _ =>
    tunnel.name = name ∧ (Ip.parseV4? tunnel.serverIpv4).isSome
  | .call (.deleteInterface other) _ => other = name
  | .call (.addRoutePrefix other range) _ =>
    other = name ∧ Ip.isText range.family range.address = true
  | .call _ _ => True
  | .look other _ => other = name

section Linux

variable {ρ : Type} {run : Runner ρ} {table : ρ → RouteTable} {uplink : Uplink} {name : String}
  {layout : Layout} {address : BitVec 32}

/-- Whether a system is laid out so: its routing table, and the host routes that the daemon knows
of. -/
structure Fits (table : ρ → RouteTable) (uplink : Uplink) (name : String) (layout : Layout)
    (host : Linux ρ) :
    Prop where
  table : table host.commands = layout.table uplink name
  pinned : ∀ other, host.pinned.get? other =
    if other = name then layout.pin.map fun address => hostRoute (.v4 address) else none
  proper : ∀ subnet ∈ layout.routes, 0 < subnet.length

namespace Linux.Work

variable {work : Work ρ} {command : Command}

theorem submit_of_hasNul (run : Runner ρ) (h : command.hasNul = true) :
    (work.submit run command).2.host = work.host := by
  unfold submit
  rw [if_pos h]
  rfl

theorem submit_of_not_hasNul (run : Runner ρ) (work : Work ρ) (h : command.hasNul = false) :
    (work.submit run command).1 = command.result (run command work.host.commands).1 ∧
      (work.submit run command).2.host =
        { work.host with commands := (run command work.host.commands).2 } := by
  unfold submit
  dsimp only
  rw [if_neg (by rw [h]; exact Bool.false_ne_true)]
  exact ⟨rfl, rfl⟩

theorem hasNul_of_submit_ok {printed : String} (h : (work.submit run command).1 = .ok printed) :
    command.hasNul = false := by
  cases hnul : command.hasNul with
  | false => rfl
  | true =>
    unfold submit at h
    rw [if_pos hnul] at h
    cases h

end Linux.Work

open Linux

variable (hroutes : Routes run table) {work : Work ρ} {command : Command}

include hroutes

theorem Fits.submit (h : Fits table uplink name layout work.host) (hspares : command.SparesRoutes) :
    Fits table uplink name layout (work.submit run command).2.host := by
  cases hnul : command.hasNul with
  | true =>
    rw [Work.submit_of_hasNul run hnul]
    exact h
  | false =>
    rw [(Work.submit_of_not_hasNul run work hnul).2]
    refine ⟨?_, h.pinned, h.proper⟩
    rw [hroutes.acts, hspares, h.table]

theorem Fits.submitAll {commands : List Command} (h : Fits table uplink name layout work.host)
    (hspares : ∀ command ∈ commands, command.SparesRoutes) :
    Fits table uplink name layout (work.submitAll run commands).2.host := by
  induction commands generalizing work with
  | nil => exact h
  | cons command rest ih =>
    obtain ⟨hcommand, hrest⟩ := List.forall_mem_cons.mp hspares
    have hnext := h.submit hroutes hcommand
    unfold Work.submitAll
    cases hsubmit : work.submit run command with
    | mk answer next =>
      rw [hsubmit] at hnext
      cases answer with
      | ok printed => exact ih hnext hrest
      | error reason => exact hnext

theorem Linux.Work.table_of_submit_ok {printed : String} {next : Work ρ}
    (h : work.submit run command = (.ok printed, next)) :
    table next.host.commands = command.onTable (table work.host.commands) ∧
      next.host.pinned = work.host.pinned := by
  have hnul := hasNul_of_submit_ok (congrArg Prod.fst h)
  have hhost := (submit_of_not_hasNul run work hnul).2
  rw [h] at hhost
  rw [hhost]
  exact ⟨hroutes.acts _ _, rfl⟩

/-- Removing the host route of an interface removes whatever route its subnet has. -/
theorem Linux.Work.table_unpin {pin : Option (BitVec 32)}
    (hpin : work.host.pinned.get? name = pin.map fun address => hostRoute (.v4 address)) :
    table (work.unpin run name).host.commands = (table work.host.commands).release pin ∧
      ∀ other, (work.unpin run name).host.pinned.get? other =
        if other = name then none else work.host.pinned.get? other := by
  unfold Work.unpin
  rw [hpin]
  cases pin with
  | none =>
    refine ⟨rfl, fun other => ?_⟩
    change work.host.pinned.get? other = _
    by_cases hother : other = name
    · rw [if_pos hother, hother, hpin, Option.map_none]
    · rw [if_neg hother]
  | some address =>
    obtain ⟨hnul, hremove⟩ := Command.removeRoute_hostRoute (table work.host.commands) address
    have hsubmit :=
      Work.submit_of_not_hasNul run (work.setPinned (work.host.pinned.erase name)) hnul
    -- A removal that fails is only noted: either way the system is as the command leaves it.
    have hhost (after : Work ρ) (hafter : after.host =
        ((work.setPinned (work.host.pinned.erase name)).submit run
          (.removeRoute (hostRoute (.v4 address)))).2.host) :
        table after.host.commands = (table work.host.commands).release (some address) ∧
          ∀ other, after.host.pinned.get? other =
            if other = name then none else work.host.pinned.get? other := by
      rw [hafter, hsubmit.2]
      exact ⟨(hroutes.acts _ _).trans hremove, fun other => Table.get?_erase _ _ _⟩
    dsimp only [Option.map_some]
    split
    · rename_i heq
      exact hhost _ (by rw [heq])
    · rename_i heq
      exact hhost _ (by rw [heq]; rfl)

theorem Fits.unpin (h : Fits table uplink name layout work.host) :
    Fits table uplink name layout.unpin (work.unpin run name).host := by
  obtain ⟨htable, hpinned⟩ := Work.table_unpin hroutes ((h.pinned name).trans (if_pos rfl))
  refine ⟨?_, fun other => ?_, fun subnet hsubnet => ?_⟩
  · rw [htable, h.table, Layout.table_unpin]
  · rw [hpinned other, h.pinned other, Layout.pin_unpin]
    split <;> rfl
  · unfold Layout.unpin at hsubnet
    split at hsubnet
    · exact h.proper subnet hsubnet
    · exact h.proper subnet (List.mem_filter.mp hsubnet).1

/-- The route that is printed for an address without a host route leads through the tunnel, and then
there is no gateway to read, or over the uplink. -/
theorem Fits.submit_getRoute (h : Fits table uplink name layout work.host) (hname : IsWord name)
    (hpin : layout.pin = none) (address : BitVec 32) :
    ∃ printed, (work.submit run (.getRoute (.v4 address))).1 = .ok printed ∧
      RouteVia.ofText? printed =
        if layout.Takes address then none else some ⟨uplink.gateway, uplink.device⟩ := by
  have haddress := Ip.parseV4?_textV4 address
  obtain ⟨value, hgateway⟩ := Option.isSome_iff_exists.mp uplink.isAddress
  have hvia : Ip.textV4 address ≠ "via" := Ip.ne_of_parseV4? haddress (by decide +kernel)
  have hfind := Layout.find_table uplink name address h.proper
  rw [← h.table] at hfind
  obtain ⟨hanswer, -⟩ := Work.submit_of_not_hasNul run work (Command.hasNul_getRoute address)
  by_cases htakes : layout.Takes address
  · rw [if_pos ((Layout.diverts_of_pin hpin).mpr htakes)] at hfind
    obtain ⟨output, houtput, hwords⟩ := hroutes.finds _ _ _ hfind fun word hword => by
      simp only [Route.words, List.nil_append, List.mem_cons, List.not_mem_nil, or_false] at hword
      rcases hword with rfl | rfl
      · decide
      · exact hname
    refine ⟨_, hanswer.trans (by rw [houtput]; rfl), ?_⟩
    rw [if_pos htakes]
    exact RouteVia.ofText?_dev hwords hvia
  · rw [if_neg fun hdiverts => htakes hdiverts.1] at hfind
    obtain ⟨output, houtput, hwords⟩ := hroutes.finds _ _ _ hfind fun word hword => by
      simp only [Route.words, Uplink.route, List.mem_append, List.mem_cons, List.not_mem_nil,
        or_false] at hword
      rcases hword with (rfl | rfl) | rfl | rfl
      · decide
      · exact uplink.gateway_isWord
      · decide
      · exact uplink.isWord
    refine ⟨_, hanswer.trans (by rw [houtput]; rfl), ?_⟩
    rw [if_neg htakes]
    exact RouteVia.ofText?_via hwords hvia (Ip.ne_of_parseV4? haddress (by decide +kernel))
      (Ip.ne_of_parseV4? hgateway (by decide +kernel))

theorem Fits.submit_replaceHostRoute (h : Fits table uplink name layout work.host)
    (hpin : layout.pin = none) (htakes : ¬ layout.Takes address) :
    ∃ printed next,
      work.submit run (.replaceHostRoute (.v4 address) ⟨uplink.gateway, uplink.device⟩) =
        (.ok printed, next) ∧
      table next.host.commands = ({ layout with pin := some address } : Layout).table uplink name ∧
      next.host.pinned = work.host.pinned := by
  obtain ⟨hanswer, -⟩ := Work.submit_of_not_hasNul run work
    (Command.hasNul_replaceHostRoute address ⟨uplink.gateway, uplink.device⟩ uplink.gateway_isWord
      uplink.isWord)
  obtain ⟨output, houtput⟩ := hroutes.succeeds
    (.replaceHostRoute (.v4 address) ⟨uplink.gateway, uplink.device⟩) work.host.commands
    (fun _ heq => by simp [Command.replaceHostRoute, Command.showLink, Command.ip] at heq)
    (fun _ heq => by simp [Command.replaceHostRoute, Command.getRoute, Command.ip] at heq)
  rw [houtput] at hanswer
  generalize hsubmit :
    work.submit run (.replaceHostRoute (.v4 address) ⟨uplink.gateway, uplink.device⟩) = replaced
      at hanswer
  obtain ⟨answer, next⟩ := replaced
  obtain rfl : answer = .ok (Utf8.decodeLossy output) := hanswer
  obtain ⟨htable, hpinned⟩ := Work.table_of_submit_ok hroutes hsubmit
  refine ⟨_, _, rfl, ?_, hpinned⟩
  rw [htable, h.table, Layout.table_pin hpin htakes, ← RouteTable.set_hostRoute]
  exact Command.onTable_replaceHostRoute _ _

/-- A peer that the routes through the tunnel take in gets no host route. -/
theorem Fits.pin (h : Fits table uplink name layout work.host) (hname : IsWord name)
    (hpin : layout.pin = none) (address : BitVec 32) :
    Fits table uplink name (if layout.Takes address then
      layout else { layout with pin := some address })
      (work.pin run name (.v4 address)).host := by
  obtain ⟨printed, hprinted, hread⟩ := h.submit_getRoute hroutes hname hpin address
  have hasked := h.submit hroutes (Command.sparesRoutes_getRoute (.v4 address))
  unfold Work.pin
  generalize work.submit run (.getRoute (.v4 address)) = asked at hprinted hasked ⊢
  obtain ⟨answer, next⟩ := asked
  obtain rfl : answer = .ok printed := hprinted
  dsimp only
  by_cases htakes : layout.Takes address
  · rw [if_pos htakes] at hread ⊢
    rw [hread]
    exact hasked
  · rw [if_neg htakes] at hread ⊢
    rw [hread]
    -- No interface has a host route by now, so that the uplink is not taken for a tunnel.
    have hfree : next.host.pinned.contains uplink.device = false := by
      rw [← Bool.not_eq_true, Table.contains_iff]
      rintro ⟨route, hroute⟩
      rw [hasked.pinned, hpin] at hroute
      split at hroute <;> cases hroute
    obtain ⟨done, last, hreplaced, htable, hpinned⟩ :=
      hasked.submit_replaceHostRoute hroutes hpin htakes
    dsimp only
    rw [if_neg (by rw [hfree]; exact Bool.false_ne_true), hreplaced]
    refine ⟨htable, fun other => ?_, h.proper⟩
    change (last.host.pinned.insert name (hostRoute (.v4 address))).get? other = _
    rw [hpinned, Table.get?_insert]
    split
    · rfl
    · rename_i hother
      exact (hasked.pinned other).trans (if_neg hother)

theorem Fits.repin (h : Fits table uplink name layout work.host) (hname : IsWord name)
    (address : BitVec 32) :
    Fits table uplink name (layout.repin address)
      ((work.unpin run name).pin run name (.v4 address)).host :=
  (h.unpin hroutes).pin hroutes hname layout.pin_unpin address

theorem Fits.configure (h : Fits table uplink name layout work.host) (hname : IsWord name)
    {settings : LinuxSettings} {tunnel : Tunnel} (htunnel : tunnel.name = name)
    (haddress : Ip.parseV4? tunnel.serverIpv4 = some address)
    (hok : (configure settings run tunnel work).1 = .ok ()) :
    Fits table uplink name (layout.repin address) (configure settings run tunnel work).2.host := by
  have hsearch : Search.resolve tunnel.serverIpv4 tunnel.port settings.retry
      (settings.lookup tunnel.serverIpv4 tunnel.port) = ⟨.ok ⟨.v4 address, tunnel.port⟩, [], []⟩ :=
    Search.resolve_literal (Ip.parse?_of_parseV4? haddress) _ _ _
  unfold Linux.configure at hok ⊢
  rw [hsearch, htunnel] at hok ⊢
  dsimp only at hok ⊢
  rw [List.append_nil] at hok ⊢
  have hlisted := h.submit hroutes (Command.sparesRoutes_wg (.showPeers name) rfl)
  cases hlist : work.submit run (.showPeers name) with
  | mk answer next =>
    rw [hlist] at hok hlisted
    cases answer with
    | error reason => cases hok
    | ok listing =>
      have hremovals :
          ∀ command ∈ (stalePeers listing tunnel.publicKey).map (Command.removePeer name),
          command.SparesRoutes :=
        List.forall_mem_map.mpr fun peer _ => Command.sparesRoutes_wg (.removePeer name peer) rfl
      have hremoved := hlisted.submitAll hroutes hremovals
      dsimp only at hok hremoved ⊢
      generalize (stalePeers listing tunnel.publicKey).map (Command.removePeer name) =
        removals at hok hremoved ⊢
      cases hremove : next.submitAll run removals with
      | mk answer last =>
        rw [hremove] at hok hremoved
        cases answer with
        | error reason => cases hok
        | ok done =>
          -- The way to the peer is looked for among the routes that the interface has already.
          have hset := (hremoved.repin hroutes hname address).submit hroutes
            (Command.sparesRoutes_wg (.setPeer tunnel ⟨.v4 address, tunnel.port⟩) rfl)
          dsimp only at hok ⊢
          generalize ((last.unpin run name).pin run name (.v4 address)).submit run
            (.setPeer tunnel ⟨.v4 address, tunnel.port⟩) = result at hok hset ⊢
          obtain ⟨answer, after⟩ := result
          cases answer with
          | error reason => cases hok
          | ok done => exact hset

/-- Taking an interface away takes the host route of its peer away, too, and leaves the default
route. -/
theorem Fits.deleteInterface (h : Fits table uplink name layout work.host)
    (hdevice : uplink.device ≠ name) (hok : (deleteInterface run name work).1 = .ok ()) :
    Fits table uplink name ⟨none, []⟩ (deleteInterface run name work).2.host := by
  unfold Linux.deleteInterface at hok ⊢
  cases hdelete : work.submit run (.deleteLink name) with
  | mk answer next =>
    rw [hdelete] at hok
    cases answer with
    | error reason => cases hok
    | ok printed =>
      obtain ⟨hdetached, hkept⟩ := Work.table_of_submit_ok hroutes hdelete
      rw [h.table, Command.onTable_deleteLink] at hdetached
      have hpinned (other : String) : next.host.pinned.get? other =
          if other = name then layout.pin.map fun address => hostRoute (.v4 address) else none := by
        rw [hkept]
        exact h.pinned other
      obtain ⟨htable, hunpinned⟩ := Work.table_unpin hroutes ((hpinned name).trans (if_pos rfl))
      refine ⟨?_, fun other => ?_, List.forall_mem_nil _⟩
      · change table (next.unpin run name).host.commands = _
        rw [htable, hdetached, Layout.release_detach hdevice h.proper]
        rfl
      · change (next.unpin run name).host.pinned.get? other = _
        rw [hunpinned, hpinned]
        split <;> rfl

theorem Fits.addRoutes (h : Fits table uplink name layout work.host) {family : Family}
    {texts : List String}
    (hproper : ∀ subnet ∈ texts.filterMap (Subnet.ofText? family), 0 < subnet.length)
    (hok : (work.submitAll run (texts.map (.replaceRoute family name))).1 = .ok ()) :
    Fits table uplink name
      { layout with routes := layout.routes ++ texts.filterMap (Subnet.ofText? family) }
      (work.submitAll run (texts.map (.replaceRoute family name))).2.host := by
  induction texts generalizing layout work with
  | nil =>
    rw [List.filterMap_nil, List.append_nil]
    exact h
  | cons text rest ih =>
    rw [List.map_cons] at hok ⊢
    unfold Work.submitAll at hok ⊢
    cases hreplace : work.submit run (.replaceRoute family name text) with
    | mk answer next =>
      rw [hreplace] at hok
      cases answer with
      | error reason => cases hok
      | ok printed =>
        obtain ⟨htable, hpinned⟩ := Work.table_of_submit_ok hroutes hreplace
        have hset :=
          RouteTable.set_familyFlag (layout.table uplink name) family text (some ⟨none, name⟩)
        rw [h.table, Command.onTable_replaceRoute, hset] at htable
        cases hread : Subnet.ofText? family text with
        | none =>
          rw [hread] at htable
          rw [List.filterMap_cons_none hread] at hproper ⊢
          exact ih ⟨htable, hpinned ▸ h.pinned, h.proper⟩ hproper hok
        | some subnet =>
          rw [hread] at htable
          rw [List.filterMap_cons_some hread] at hproper ⊢
          obtain ⟨hsubnet, hrest⟩ := List.forall_mem_cons.mp hproper
          have hnext :
              Fits table uplink name { layout with routes := layout.routes ++ [subnet] }
                next.host :=
            ⟨htable.trans (Layout.table_route layout subnet).symm, hpinned ▸ h.pinned,
              List.forall_mem_append.mpr ⟨h.proper, List.forall_mem_singleton.mpr hsubnet⟩⟩
          have hlast := ih hnext hrest hok
          rw [List.append_assoc] at hlast
          exact hlast

theorem Fits.updateResolvers (h : Fits table uplink name layout work.host) {other : String}
    {resolvers : List String} (hok : (updateResolvers run other resolvers work).1 = .ok ()) :
    Fits table uplink name layout (updateResolvers run other resolvers work).2.host := by
  have hset := h.submitAll hroutes (List.forall_mem_cons.mpr
    ⟨Command.sparesRoutes_resolvectl (.setResolvers other resolvers) rfl,
      List.forall_mem_singleton.mpr (Command.sparesRoutes_resolvectl (.claimDomains other) rfl)⟩)
  unfold Linux.updateResolvers at hok ⊢
  generalize work.submitAll run [.setResolvers other resolvers, .claimDomains other] =
    result at hset hok ⊢
  obtain ⟨answer, after⟩ := result
  cases answer with
  | error reason => cases hok
  | ok done => exact ⟨hset.table, hset.pinned, hset.proper⟩

theorem Fits.restoreResolvers (h : Fits table uplink name layout work.host) :
    Fits table uplink name layout (restoreResolvers run work).2.host := by
  unfold Linux.restoreResolvers
  cases work.host.link with
  | none => exact h
  | some link =>
    have hforgotten : Fits table uplink name layout (work.setLink none).host :=
      ⟨h.table, h.pinned, h.proper⟩
    exact hforgotten.submitAll hroutes (List.forall_mem_singleton.mpr
      (Command.sparesRoutes_resolvectl (.revertResolvers link) rfl))

end Linux

section Engine

open Linux

/-- What a tunnel stands on: a program that sets routes, an uplink over another device, and a name
that can be told. -/
structure Footing {ρ : Type} (run : Runner ρ) (table : ρ → RouteTable) (uplink : Uplink)
    (name : String) :
    Prop where
  routes : Routes run table
  apart : uplink.device ≠ name
  isWord : IsWord name

variable {ρ : Type} {run : Runner ρ} {table : ρ → RouteTable} {uplink : Uplink} {name : String}
  (hfooting : Footing run table uplink name) {layout : Layout} {settings : LinuxSettings}
  {host : Linux ρ}

include hfooting

/-- A call that does not fail does to the system what it does to the layout. -/
theorem Fits.perform (h : Fits table uplink name layout host) {call : Call}
    (hsuits : (Exchange.call call (.ok ())).Suits name)
    (hok : ((engine settings run).perform call host).answer = .ok ()) :
    Fits table uplink name ((Exchange.call call (.ok ())).onLayout layout)
      ((engine settings run).perform call host).system := by
  have hdone : (carryOut settings run ⟨host, []⟩ call).1 = .ok () := by
    change (carryOut settings run ⟨host, []⟩ call).1.mapError _ = _ at hok
    cases hresult : (carryOut settings run ⟨host, []⟩ call).1 with
    | ok done => rfl
    | error reason =>
      rw [hresult] at hok
      cases hok
  change Fits table uplink name _ (carryOut settings run ⟨host, []⟩ call).2.host
  cases call with
  | addInterface tunnel =>
    exact Fits.submitAll hfooting.routes h
      (List.forall_mem_singleton.mpr (Command.sparesRoutes_addLink _))
  | configureInterface tunnel =>
    obtain ⟨htunnel, hsome⟩ := hsuits
    obtain ⟨address, haddress⟩ := Option.isSome_iff_exists.mp hsome
    simp only [Exchange.onLayout, haddress]
    exact Fits.configure hfooting.routes h hfooting.isWord htunnel haddress hdone
  | deleteInterface other =>
    obtain rfl : other = name := hsuits
    exact Fits.deleteInterface hfooting.routes h hfooting.apart hdone
  | addRoutePrefix other range =>
    obtain ⟨rfl, haddress⟩ := hsuits
    exact Fits.addRoutes hfooting.routes h
      (fun _ => AddressRange.length_pos_of_mem_subnets haddress) hdone
  | updateResolvers other resolvers => exact Fits.updateResolvers hfooting.routes h hdone
  | restoreResolvers => exact Fits.restoreResolvers hfooting.routes h
  | addInterfaceIPs tunnel =>
    exact Fits.submitAll hfooting.routes h (Command.sparesRoutes_addAddresses tunnel)
  | setMTUAndUp tunnel =>
    exact Fits.submitAll hfooting.routes h
      (List.forall_mem_singleton.mpr (Command.sparesRoutes_setLinkUp _ _))

/-- A look that finds no interface tells that no route leads through it. -/
theorem Fits.hasInterface (h : Fits table uplink name layout host) :
    Fits table uplink name
      ((Exchange.look name ((engine settings run).hasInterface name host).answer).onLayout layout)
      ((engine settings run).hasInterface name host).system := by
  have hbefore : Fits table uplink name layout (Work.mk host []).host := h
  have hspared := hbefore.submit hfooting.routes (Command.sparesRoutes_showLink name)
  cases hanswer : ((engine settings run).hasInterface name host).answer with
  | true => exact hspared
  | false =>
    obtain ⟨hresult, -⟩ :=
      Work.submit_of_not_hasNul run ⟨host, []⟩ (Command.hasNul_showLink hfooting.isWord)
    have hunused : layout.routes = [] := by
      rcases hfooting.routes.shows name host.commands with ⟨output, houtput⟩ | hunused
      · rw [houtput] at hresult
        change ((Work.submit run ⟨host, []⟩ (.showLink name)).1).isOk = false at hanswer
        rw [hresult] at hanswer
        cases hanswer
      · refine List.eq_nil_iff_forall_not_mem.mpr fun subnet hmem => ?_
        refine hunused subnet ⟨none, name⟩ ?_ rfl
        rw [h.table]
        exact Layout.table_of_mem hmem
    have hlayout : (Exchange.look name false).onLayout layout = layout := by
      change ({ layout with routes := [] } : Layout) = layout
      rw [← hunused]
    rw [hlayout]
    exact hspared

/-- What a run of exchanges without a failure does to a system is what it does to its layout. -/
theorem Fits.runs {before after : Linux ρ} {xs : List Exchange}
    (hruns : (engine settings run).Runs before xs after) (hsuits : ∀ x ∈ xs, x.Suits name)
    (hclean : Clean xs) (h : Fits table uplink name layout before) :
    Fits table uplink name (xs.foldl Exchange.onLayout layout) after := by
  induction hruns generalizing layout with
  | nil system => exact h
  | call call hrest ih =>
    obtain ⟨hcall, hlater⟩ := List.forall_mem_cons.mp hsuits
    obtain ⟨hdone, hclean⟩ := List.forall_mem_cons.mp hclean
    rw [List.foldl_cons]
    refine ih hlater hclean ?_
    cases hanswer : ((engine settings run).perform call _).answer with
    | error failure =>
      rw [hanswer] at hdone
      cases hdone
    | ok done =>
      rw [hanswer] at hcall
      exact h.perform hfooting hcall hanswer
  | look other hrest ih =>
    obtain ⟨rfl, hlater⟩ := List.forall_mem_cons.mp hsuits
    rw [List.foldl_cons]
    exact ih hlater (List.forall_mem_cons.mp hclean).2 (h.hasInterface hfooting)

end Engine

end TunnelChain
