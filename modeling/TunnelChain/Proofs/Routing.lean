import Mathlib.Data.List.Basic
import Mathlib.Logic.Function.Basic
import TunnelChain.Engine.Linux
import TunnelChain.Proofs.Address
import TunnelChain.Proofs.Utf8

/-!
# Routing tables

What the program `ip` does to the routes of a system: it sets the route to a subnet of addresses,
removes it, removes all that lead through a device, and tells which one an address takes.
-/

namespace TunnelChain

/-! ## Words -/

/-- Whether a text can be told apart from its neighbours in what a program prints, and handed to
one. -/
structure IsWord (text : String) : Prop where
  nonempty : text.toList ≠ []
  solid : ∀ c ∈ text.toList, isBlank c = false
  noNul : ∀ c ∈ text.toList, c.toNat ≠ 0

theorem isWord_iff {text : String} : IsWord text ↔
    text.toList ≠ [] ∧ text.toList.all (fun c => isBlank c = false ∧ c.toNat ≠ 0) = true := by
  simp only [List.all_eq_true, decide_eq_true_eq]
  exact ⟨fun h => ⟨h.nonempty, fun c hc => ⟨h.solid c hc, h.noNul c hc⟩⟩,
    fun ⟨hne, hall⟩ => ⟨hne, fun c hc => (hall c hc).1, fun c hc => (hall c hc).2⟩⟩

instance (text : String) : Decidable (IsWord text) :=
  decidable_of_iff _ isWord_iff.symm

theorem foldr_step_solid {solid : List Char} (rest : List Char)
    (h : ∀ c ∈ solid, isBlank c = false) :
    (solid ++ rest).foldr words.step ([], []) =
      ((rest.foldr words.step ([], [])).1, solid ++ (rest.foldr words.step ([], [])).2) := by
  induction solid with
  | nil => rfl
  | cons c solid ih =>
    obtain ⟨hc, hsolid⟩ := List.forall_mem_cons.mp h
    rw [List.cons_append, List.foldr_cons, ih hsolid, words.step, if_neg (by simp [hc])]
    rfl

theorem words_of_isWord {word : String} (h : IsWord word) : words word = [word] := by
  have hfold := foldr_step_solid [] h.solid
  rw [List.append_nil] at hfold
  unfold words
  rw [hfold]
  simp [h.nonempty]

theorem words_cons {word : String} (h : IsWord word) (rest : String) :
    words (word ++ (" " ++ rest)) = word :: words rest := by
  have hfold := foldr_step_solid (' ' :: rest.toList) h.solid
  have htext : (word ++ (" " ++ rest)).toList = word.toList ++ ' ' :: rest.toList := by
    simp [String.toList_append]
  unfold words
  rw [htext, hfold]
  have hblank : isBlank ' ' = true := by decide
  simp only [List.foldr_cons, words.step, hblank, if_true]
  simp [h.nonempty]

/-- Words with spaces between them are read back. -/
theorem words_intercalate {word : String} {rest : List String}
    (h : ∀ other ∈ word :: rest, IsWord other) :
    words (" ".intercalate (word :: rest)) = word :: rest := by
  induction rest generalizing word with
  | nil =>
    obtain ⟨hword, -⟩ := List.forall_mem_cons.mp h
    simpa using words_of_isWord hword
  | cons next rest ih =>
    obtain ⟨hword, hrest⟩ := List.forall_mem_cons.mp h
    rw [String.intercalate_cons_cons, String.append_assoc, words_cons hword, ih hrest]

theorem isWord_of_toNat {text : String} (hne : text.toList ≠ [])
    (h : ∀ c ∈ text.toList, 46 ≤ c.toNat ∧ c.toNat ≤ 57) : IsWord text := by
  refine ⟨hne, fun c hc => ?_, fun c hc => ?_⟩
  · obtain ⟨hlow, hhigh⟩ := h c hc
    simp only [isBlank, Bool.or_eq_false_iff, Bool.and_eq_false_imp, decide_eq_true_eq,
      decide_eq_false_iff_not, beq_eq_false_iff_ne]
    omega
  · obtain ⟨hlow, -⟩ := h c hc
    omega

namespace Ip

theorem writes_ipv4 {c : Char} (h : Writes .ipv4 c) : c = '.' ∨ (48 ≤ c.toNat ∧ c.toNat ≤ 57) := by
  obtain hdigit | rfl := h
  · refine .inr ?_
    unfold digit? at hdigit
    simp only [Option.isSome_ite] at hdigit
    split_ifs at hdigit <;> omega
  · exact .inl rfl

theorem toNat_of_mem_parseV4? {text : String} {value : BitVec 32} (h : parseV4? text = some value)
    {c : Char} (hc : c ∈ text.toList) : 46 ≤ c.toNat ∧ c.toNat ≤ 57 := by
  obtain rfl | hdigit := writes_ipv4 (writes_of_parseV4? h c hc)
  · decide
  · omega

theorem isWord_of_parseV4? {text : String} {value : BitVec 32} (h : parseV4? text = some value) :
    IsWord text := by
  refine isWord_of_toNat ?_ fun c => toNat_of_mem_parseV4? h
  intro hempty
  rw [parseV4?, hempty] at h
  cases h

theorem not_writes_slash {family : Family} : ¬ Writes family '/' := by
  cases family with
  | ipv4 => exact (by decide : ¬ ((digit? 10 '/').isSome = true ∨ '/' = '.'))
  | ipv6 => exact (by decide : ¬ ((digit? 16 '/').isSome = true ∨ '/' = '.' ∨ '/' = ':'))

end Ip

/-! ## Subnets -/

/-- The addresses of a family whose first bits are these. -/
structure Subnet where
  family : Family
  length : Nat
  bits : Nat
deriving DecidableEq, Repr

namespace Ip

def number : Ip → Nat
  | .v4 value => value.toNat
  | .v6 value => value.toNat

def ofText? (family : Family) (text : String) : Option Ip :=
  match family with
  | .ipv4 => (parseV4? text).map .v4
  | .ipv6 => (parseV6? text).map .v6

theorem family_of_ofText? {family : Family} {text : String} {ip : Ip}
    (h : ofText? family text = some ip) :
    ip.family = family := by
  cases family <;> obtain ⟨value, -, rfl⟩ := Option.map_eq_some_iff.mp h <;> rfl

theorem isText_eq_isSome (family : Family) (text : String) :
    isText family text = (ofText? family text).isSome := by
  cases family <;> exact Option.isSome_map.symm

end Ip

namespace Subnet

/-- The subnet of so many bits that an address is in. -/
def around (ip : Ip) (length : Nat) : Subnet :=
  ⟨ip.family, length, ip.number >>> (ip.family.maxPrefixLength - length)⟩

/-- The subnet of an address alone. -/
def host (ip : Ip) : Subnet :=
  around ip ip.family.maxPrefixLength

def everything : Subnet :=
  ⟨.ipv4, 0, 0⟩

def Covers (subnet : Subnet) (ip : Ip) : Prop :=
  subnet.length ≤ ip.family.maxPrefixLength ∧ subnet = around ip subnet.length

instance (subnet : Subnet) (ip : Ip) : Decidable (subnet.Covers ip) :=
  inferInstanceAs (Decidable (_ ∧ _))

/-- Reads an address and a length with a slash between them. -/
def ofText? (family : Family) (text : String) : Option Subnet :=
  match Ip.ofText? family (String.ofList (text.toList.takeWhile (· ≠ '/'))),
      Decimal.natural? (String.ofList ((text.toList.dropWhile (· ≠ '/')).drop 1)) with
  | some ip, some length =>
    if length ≤ family.maxPrefixLength then some (around ip length) else none
  | _, _ => none

theorem ofText?_slash {family : Family} {address : String} {ip : Ip}
    (h : Ip.ofText? family address = some ip) (length : Nat) :
    ofText? family (address ++ "/" ++ toString length) =
      if length ≤ family.maxPrefixLength then some (around ip length) else none := by
  have hplain : ∀ c ∈ address.toList, decide (c ≠ '/') = true := by
    have hwrites :=
      Ip.writes_of_isText ((Ip.isText_eq_isSome family address).trans (by rw [h]; rfl))
    intro c hc
    refine decide_eq_true ?_
    rintro rfl
    exact Ip.not_writes_slash (hwrites _ hc)
  have htext : (address ++ "/" ++ toString length).toList =
      address.toList ++ '/' :: (toString length).toList := by
    simp [String.toList_append]
  unfold ofText?
  rw [htext, List.takeWhile_append_of_pos hplain, List.dropWhile_append_of_pos hplain,
    List.takeWhile_cons_of_neg (by simp), List.dropWhile_cons_of_neg (by simp), List.append_nil,
    List.drop_one,
    List.tail_cons, String.ofList_toList, String.ofList_toList, h, Decimal.natural?_toString]

end Subnet

def AddressRange.subnets (range : AddressRange) : List Subnet :=
  range.routePrefixes.filterMap (Subnet.ofText? range.family)

def Tunnel.subnets (tunnel : Tunnel) : List Subnet :=
  tunnel.ranges.flatMap AddressRange.subnets

namespace Subnet

theorem ofText?_hostRoute (address : BitVec 32) :
    ofText? .ipv4 (hostRoute (.v4 address)) = some (host (.v4 address)) := by
  have hread : Ip.ofText? .ipv4 (Ip.textV4 address) = some (.v4 address) := by
    rw [Ip.ofText?, Ip.parseV4?_textV4, Option.map_some]
  have htext : hostRoute (.v4 address) = Ip.textV4 address ++ "/" ++ toString 32 := rfl
  rw [htext, ofText?_slash hread]
  rfl

theorem eq_around_of_ofText? {family : Family} {ip : Ip} {length : Nat} {address : String}
    {subnet : Subnet} (h : Ip.ofText? family address = some ip)
    (hsubnet : ofText? family (address ++ "/" ++ toString length) = some subnet) :
    subnet = around ip length := by
  rw [ofText?_slash h] at hsubnet
  split at hsubnet
  · exact (Option.some.inj hsubnet).symm
  · cases hsubnet

theorem host_v4_injective {address other : BitVec 32} (h : host (.v4 address) = host (.v4 other)) :
    address = other :=
  BitVec.eq_of_toNat_eq (congrArg bits h)

end Subnet

namespace AddressRange

variable {range : AddressRange} {subnet : Subnet}

theorem mem_subnets (h : Ip.isText range.family range.address = true)
    (hsubnet : subnet ∈ range.subnets) :
    subnet.length = 1 ∨ (range.length ≠ 0 ∧ ∃ ip, Ip.ofText? range.family range.address = some ip ∧
      subnet = .around ip range.length.toNat) := by
  obtain ⟨text, hprefix, hread⟩ := List.mem_filterMap.mp hsubnet
  unfold routePrefixes at hprefix
  split at hprefix
  · rename_i hlength
    obtain ⟨ip, hip⟩ := Option.isSome_iff_exists.mp ((Ip.isText_eq_isSome _ _).symm.trans h)
    rw [List.mem_singleton.mp hprefix] at hread
    exact .inr ⟨hlength, ip, hip, Subnet.eq_around_of_ofText? hip hread⟩
  · refine .inl ?_
    have hhalves : ∀ half ∈ ["0.0.0.0/1", "128.0.0.0/1"],
        (Subnet.ofText? .ipv4 half).map Subnet.length = some 1 := by
      decide +kernel
    have hhalves' : ∀ half ∈ ["::/1", "8000::/1"], (Subnet.ofText? .ipv6 half).map Subnet.length =
        some 1 := by
      decide +kernel
    cases hfamily : range.family with
    | ipv4 =>
      rw [hfamily] at hprefix hread
      have hone := hhalves _ hprefix
      rw [hread] at hone
      exact Option.some.inj hone
    | ipv6 =>
      rw [hfamily] at hprefix hread
      have hone := hhalves' _ hprefix
      rw [hread] at hone
      exact Option.some.inj hone

/-- No range is routed as the subnet of all addresses: the default route stays. -/
theorem length_pos_of_mem_subnets (h : Ip.isText range.family range.address = true)
    (hsubnet : subnet ∈ range.subnets) : 0 < subnet.length := by
  obtain hone | ⟨hlength, ip, -, rfl⟩ := mem_subnets h hsubnet
  · omega
  · exact Nat.pos_of_ne_zero fun hzero => hlength (UInt8.toNat_inj.mp hzero)

theorem eq_host_of_mem_subnets (h : Ip.isText range.family range.address = true)
    {address : BitVec 32} (hsubnet : Subnet.host (.v4 address) ∈ range.subnets) :
    range.family = .ipv4 ∧ range.length = 32 ∧ Ip.parseV4? range.address = some address := by
  obtain hone | ⟨-, ip, hip, haround⟩ := mem_subnets h hsubnet
  · cases hone
  · have hfamily : range.family = .ipv4 :=
      (Ip.family_of_ofText? hip).symm.trans (congrArg Subnet.family haround).symm
    have hlength : range.length = 32 := UInt8.toNat_inj.mp (congrArg Subnet.length haround).symm
    rw [hfamily] at hip
    obtain ⟨value, hvalue, rfl⟩ := Option.map_eq_some_iff.mp hip
    rw [hlength] at haround
    rw [Subnet.host_v4_injective haround]
    exact ⟨hfamily, hlength, hvalue⟩

end AddressRange

/-! ## Tables -/

structure Route where
  gateway : Option String
  device : String
deriving DecidableEq, Repr

namespace Route

/-- A route as it is printed, and as it is given to be set. -/
def words (route : Route) : List String :=
  (match route.gateway with
    | some gateway => ["via", gateway]
    | none => []) ++ ["dev", route.device]

end Route

abbrev RouteTable := Subnet → Option Route

namespace RouteTable

variable {table : RouteTable} {ip : Ip}

/-- The route to the longest subnet that an address is in. -/
def find (table : RouteTable) (ip : Ip) : Option Route :=
  (List.range (ip.family.maxPrefixLength + 1)).reverse.findSome? fun length =>
    table (.around ip length)

/-- Sets the route to the subnet that a text names, or removes it. -/
def set (table : RouteTable) (flag text : String) (route : Option Route) : RouteTable :=
  match Subnet.ofText? (.ofIsIpv6 (flag = familyFlag true)) text with
  | some subnet => Function.update table subnet route
  | none => table

def detach (table : RouteTable) (device : String) : RouteTable := fun subnet =>
  (table subnet).filter fun route => route.device ≠ device

/-- Removes the route to an IPv4 address alone, if there is an address. -/
def release (table : RouteTable) : Option (BitVec 32) → RouteTable
  | none => table
  | some address => Function.update table (.host (.v4 address)) none

/-- A table with nothing but a default route for IPv4. -/
def onlyDefault (route : Route) : RouteTable := fun subnet =>
  if subnet = Subnet.everything then some route else none

end RouteTable

/-- What a command can do to the links and the routes of a system. -/
inductive Rerouting where
  | set (flag text : String) (route : Option Route)
  | attach (device : String)
  | detach (device : String)

def Rerouting.onTable (table : RouteTable) : Rerouting → RouteTable
  | .set flag text route => table.set flag text route
  | .attach _ => table
  | .detach device => table.detach device

namespace Command

variable {table : RouteTable}

def rerouting? (command : Command) : Option Rerouting :=
  match command.program, command.arguments with
  | "ip", [flag, "route", "replace", subnet, "dev", device] =>
    some (.set flag subnet (some ⟨none, device⟩))
  | "ip", [flag, "route", "replace", subnet, "via", gateway, "dev", device] =>
    some (.set flag subnet (some ⟨some gateway, device⟩))
  | "ip", [flag, "route", "del", subnet] => some (.set flag subnet none)
  | "ip", ["link", "add", "dev", device, "type", _] => some (.attach device)
  | "ip", ["link", "del", "dev", device] => some (.detach device)
  | _, _ => none

def onTable (command : Command) (table : RouteTable) : RouteTable :=
  command.rerouting?.elim table (Rerouting.onTable table)

def SparesRoutes (command : Command) : Prop :=
  ∀ table, command.onTable table = table

theorem sparesRoutes_of_program {command : Command} (h : command.program ≠ "ip") :
    command.SparesRoutes := by
  intro table
  have hnone : command.rerouting? = none := by
    unfold rerouting?
    split
    · exact absurd ‹_› h
    · exact absurd ‹_› h
    · exact absurd ‹_› h
    · exact absurd ‹_› h
    · exact absurd ‹_› h
    · rfl
  rw [onTable, hnone]
  rfl

theorem sparesRoutes_wg (command : Command) (h : command.program = "wg") : command.SparesRoutes :=
  sparesRoutes_of_program (by rw [h]; decide)

theorem sparesRoutes_resolvectl (command : Command) (h : command.program = "resolvectl") :
    command.SparesRoutes :=
  sparesRoutes_of_program (by rw [h]; decide)

theorem sparesRoutes_showLink (name : String) : (showLink name).SparesRoutes := fun _ => rfl

theorem sparesRoutes_addLink (name : String) : (addLink name).SparesRoutes := fun _ => rfl

theorem sparesRoutes_setLinkUp (name : String) (mtu : UInt16) : (setLinkUp name mtu).SparesRoutes :=
  fun _ => rfl

theorem sparesRoutes_getRoute (peer : Ip) : (getRoute peer).SparesRoutes := by
  cases peer <;> exact fun _ => rfl

theorem sparesRoutes_addAddresses (tunnel : Tunnel) :
    ∀ command ∈ addAddresses tunnel, command.SparesRoutes := by
  refine List.forall_mem_cons.mpr ⟨fun _ => rfl, ?_⟩
  split
  · exact List.forall_mem_singleton.mpr fun _ => rfl
  · exact List.forall_mem_nil _

theorem onTable_replaceRoute (family : Family) (name subnet : String) :
    (replaceRoute family name subnet).onTable table =
      table.set (familyFlag family.isIpv6) subnet (some ⟨none, name⟩) := by
  simp only [onTable, rerouting?, replaceRoute, ip, Option.elim_some, Rerouting.onTable]

theorem onTable_replaceHostRoute (peer : Ip) (via : RouteVia) :
    (replaceHostRoute peer via).onTable table =
      table.set (familyFlag peer.family.isIpv6) (hostRoute peer)
        (some ⟨some via.gateway, via.device⟩) := by
  simp only [onTable, rerouting?, replaceHostRoute, ip, Option.elim_some, Rerouting.onTable]

theorem onTable_removeRoute (subnet : String) :
    (removeRoute subnet).onTable table =
      table.set (familyFlag (subnet.toList.contains ':')) subnet none := by
  simp only [onTable, rerouting?, removeRoute, ip, Option.elim_some, Rerouting.onTable]

theorem onTable_deleteLink (name : String) :
    (deleteLink name).onTable table = table.detach name := by
  simp only [onTable, rerouting?, deleteLink, ip, Option.elim_some, Rerouting.onTable]

end Command

namespace RouteTable

variable {table : RouteTable}

theorem set_familyFlag (table : RouteTable) (family : Family) (subnet : String)
    (route : Option Route) :
    table.set (familyFlag family.isIpv6) subnet route =
      match Subnet.ofText? family subnet with
      | some subnet => Function.update table subnet route
      | none => table := by
  have hflag : Family.ofIsIpv6 (decide (familyFlag family.isIpv6 = familyFlag true)) = family := by
    cases family <;> decide
  rw [set, hflag]

theorem set_hostRoute (address : BitVec 32) (route : Option Route) :
    table.set (familyFlag false) (hostRoute (.v4 address)) route =
      Function.update table (.host (.v4 address)) route := by
  have hset := set_familyFlag table .ipv4 (hostRoute (.v4 address)) route
  rw [Subnet.ofText?_hostRoute] at hset
  exact hset

end RouteTable

/-! ## Host routes -/

/-- A command that is all words can be given. -/
theorem Command.hasNul_of_isWord {command : Command}
    (h : ∀ argument ∈ command.arguments, IsWord argument) :
    command.hasNul = false := by
  rw [hasNul, List.any_eq_false]
  intro argument hargument hnul
  obtain ⟨c, hc, hzero⟩ := List.any_eq_true.mp hnul
  exact (h argument hargument).noNul c hc (beq_iff_eq.mp hzero)

theorem isWord_familyFlag (isIpv6 : Bool) : IsWord (familyFlag isIpv6) := by
  cases isIpv6 <;> decide

theorem toList_hostRoute (address : BitVec 32) :
    (hostRoute (.v4 address)).toList = (Ip.textV4 address).toList ++ ['/', '3', '2'] := by
  have htext : hostRoute (.v4 address) = Ip.textV4 address ++ ("/" ++ toString 32) :=
    String.append_assoc
  rw [htext, String.toList_append]
  rfl

theorem toNat_of_mem_hostRoute {address : BitVec 32} {c : Char}
    (hc : c ∈ (hostRoute (.v4 address)).toList) :
    46 ≤ c.toNat ∧ c.toNat ≤ 57 := by
  rw [toList_hostRoute, List.mem_append] at hc
  obtain hc | hc := hc
  · exact Ip.toNat_of_mem_parseV4? (Ip.parseV4?_textV4 address) hc
  · simp only [List.mem_cons, List.not_mem_nil, or_false] at hc
    obtain rfl | rfl | rfl := hc <;> decide

theorem isWord_textV4 (address : BitVec 32) : IsWord (Ip.textV4 address) :=
  Ip.isWord_of_parseV4? (Ip.parseV4?_textV4 address)

theorem isWord_hostRoute (address : BitVec 32) : IsWord (hostRoute (.v4 address)) := by
  refine isWord_of_toNat ?_ fun c => toNat_of_mem_hostRoute
  rw [toList_hostRoute]
  exact List.append_ne_nil_of_right_ne_nil _ (List.cons_ne_nil _ _)

/-- The command that removes a host route to an IPv4 address is one for IPv4, and can be given. -/
theorem Command.removeRoute_hostRoute (table : RouteTable) (address : BitVec 32) :
    (removeRoute (hostRoute (.v4 address))).hasNul = false ∧
      (removeRoute (hostRoute (.v4 address))).onTable table = table.release (some address) := by
  have hcolon : (hostRoute (.v4 address)).toList.contains ':' = false := by
    rw [← Bool.not_eq_true, List.contains_iff_mem]
    exact fun hmem => absurd (toNat_of_mem_hostRoute hmem) (by decide)
  refine ⟨hasNul_of_isWord ?_, ?_⟩
  · simp only [removeRoute, ip, List.forall_mem_cons]
    exact ⟨isWord_familyFlag _, by decide, by decide, isWord_hostRoute address,
      List.forall_mem_nil _⟩
  · rw [onTable_removeRoute, hcolon, RouteTable.set_hostRoute]
    rfl

theorem Command.hasNul_getRoute (address : BitVec 32) :
    (getRoute (.v4 address)).hasNul = false := by
  refine hasNul_of_isWord ?_
  simp only [getRoute, ip, List.forall_mem_cons]
  exact ⟨isWord_familyFlag _, by decide, by decide, isWord_textV4 address, List.forall_mem_nil _⟩

theorem Command.hasNul_replaceHostRoute (address : BitVec 32) (via : RouteVia)
    (hgateway : IsWord via.gateway)
    (hdevice : IsWord via.device) : (replaceHostRoute (.v4 address) via).hasNul = false := by
  refine hasNul_of_isWord ?_
  simp only [replaceHostRoute, ip, List.forall_mem_cons]
  exact ⟨isWord_familyFlag _, by decide, by decide, isWord_hostRoute address, by decide,
    hgateway, by decide, hdevice, List.forall_mem_nil _⟩

theorem Command.hasNul_showLink {name : String} (h : IsWord name) :
    (showLink name).hasNul = false := by
  refine hasNul_of_isWord ?_
  simp only [showLink, ip, List.forall_mem_cons]
  exact ⟨by decide, by decide, by decide, h, List.forall_mem_nil _⟩

namespace RouteVia

variable {address gateway device printed : String}

/-- A route over a gateway is read back as it was printed, where the words are such as addresses
are. -/
theorem ofText?_via (h : words printed = [address, "via", gateway, "dev", device])
    (hvia : address ≠ "via") (hdev : address ≠ "dev") (hgateway : gateway ≠ "dev") :
    ofText? printed = some ⟨gateway, device⟩ := by
  have hfirst : wordAfter "via" (words printed) = some gateway := by
    simp [h, wordAfter, hvia]
  have hsecond : wordAfter "dev" (words printed) = some device := by
    simp [h, wordAfter, hdev, hgateway]
  rw [ofText?, hfirst, hsecond]

theorem ofText?_dev (h : words printed = [address, "dev", device]) (hvia : address ≠ "via") :
    ofText? printed = none := by
  have hfirst : wordAfter "via" (words printed) = none := by
    simp [h, wordAfter, hvia]
  rw [ofText?, hfirst]

end RouteVia

/-- What is relied on of `ip`: commands do to the routing table what they say and end well, but for
a look for a link that no route leads through; and the route that an address takes is printed in
words. -/
structure Routes {ρ : Type} (run : Runner ρ) (table : ρ → RouteTable) : Prop where
  acts : ∀ command commands, table (run command commands).2 = command.onTable (table commands)
  succeeds : ∀ command commands, (∀ name, command ≠ .showLink name) →
    (∀ ip, command ≠ .getRoute ip) →
    ∃ output, (run command commands).1 = .ran (.exit 0) output
  shows : ∀ name commands, (∃ output, (run (.showLink name) commands).1 = .ran (.exit 0) output) ∨
    ∀ subnet route, table commands subnet = some route → route.device ≠ name
  finds : ∀ address commands route, (table commands).find (.v4 address) = some route →
    (∀ word ∈ route.words, IsWord word) →
      ∃ output, (run (.getRoute (.v4 address)) commands).1 = .ran (.exit 0) output ∧
        words (Utf8.decodeLossy output) = Ip.textV4 address :: route.words

namespace RouteTable

def told (table : RouteTable) (address : String) : Bytes :=
  ((Ip.parse? address).bind table.find).elim [] fun route =>
    Utf8.encode (" ".intercalate (address :: route.words))

def printed (table : RouteTable) (command : Command) : Bytes :=
  match command.arguments with
  | [_, "route", "get", address] => table.told address
  | _ => []

theorem printed_getRoute (table : RouteTable) (address : BitVec 32) :
    table.printed (.getRoute (.v4 address)) = table.told (Ip.textV4 address) := by
  simp only [printed, Command.getRoute, Command.ip, Ip.text]

end RouteTable

/-- A system that is nothing but its links and the routes over them. -/
structure Net where
  table : RouteTable
  links : List String
  linked : ∀ subnet route, table subnet = some route → route.device ∈ links

namespace Rerouting

/-- The links after a command. A route is only ever set over a link that is there. -/
def onLinks (links : List String) : Rerouting → List String
  | .set _ _ route => route.toList.map Route.device ++ links
  | .attach device => device :: links
  | .detach device => links.filter (· ≠ device)

theorem linked {table : RouteTable} {links : List String} (change : Rerouting)
    (h : ∀ subnet route, table subnet = some route → route.device ∈ links) :
    ∀ subnet route, change.onTable table subnet = some route →
      route.device ∈ change.onLinks links := by
  intro subnet route hroute
  cases change with
  | set flag text given =>
    refine List.mem_append.mpr ?_
    change table.set flag text given subnet = some route at hroute
    unfold RouteTable.set at hroute
    cases hread : Subnet.ofText? (.ofIsIpv6 (flag = familyFlag true)) text with
    | none =>
      rw [hread] at hroute
      exact .inr (h subnet route hroute)
    | some target =>
      rw [hread] at hroute
      change Function.update table target given subnet = some route at hroute
      by_cases htarget : subnet = target
      · rw [htarget, Function.update_self] at hroute
        exact .inl (List.mem_map_of_mem (Option.mem_toList.mpr hroute))
      · rw [Function.update_of_ne htarget] at hroute
        exact .inr (h subnet route hroute)
  | attach device => exact List.mem_cons_of_mem device (h subnet route hroute)
  | detach device =>
    obtain ⟨hbefore, hother⟩ := Option.filter_eq_some_iff.mp hroute
    exact List.mem_filter.mpr ⟨h subnet route hbefore, hother⟩

end Rerouting

namespace Net

variable {net : Net} {command : Command}

def after (net : Net) (command : Command) : Net :=
  match command.rerouting? with
  | some change => ⟨change.onTable net.table, change.onLinks net.links, change.linked net.linked⟩
  | none => net

theorem table_after (net : Net) (command : Command) :
    (net.after command).table = command.onTable net.table := by
  unfold after Command.onTable
  cases command.rerouting? with
  | some change => rfl
  | none => rfl

/-- Every command ends well, but for a look for a link that is not there. -/
def ending (net : Net) (command : Command) : Ending :=
  if ∃ name ∈ command.arguments, command = .showLink name ∧ name ∉ net.links then .exit 1
  else .exit 0

def run : Runner Net := fun command net =>
  (.ran (net.ending command) (net.table.printed command), net.after command)

theorem routes_run : Routes run table where
  acts command net := net.table_after command
  succeeds command net hlook _ := by
    refine ⟨net.table.printed command, congrArg (Reply.ran · _) (if_neg ?_)⟩
    rintro ⟨name, -, hcommand, -⟩
    exact hlook name hcommand
  shows name net := by
    by_cases hname : name ∈ net.links
    · refine .inl ⟨net.table.printed (.showLink name), congrArg (Reply.ran · _) (if_neg ?_)⟩
      rintro ⟨other, -, hcommand, hother⟩
      simp only [Command.showLink, Command.ip, Command.mk.injEq, List.cons.injEq, and_true,
        true_and] at hcommand
      exact hother (hcommand ▸ hname)
    · refine .inr fun subnet route hroute hdevice => ?_
      exact hname (hdevice ▸ net.linked subnet route hroute)
  finds address net route hroute hwords := by
    have htold : net.table.told (Ip.textV4 address) =
        Utf8.encode (" ".intercalate (Ip.textV4 address :: route.words)) := by
      rw [RouteTable.told, Ip.parse?_of_parseV4? (Ip.parseV4?_textV4 address),
        Option.bind_some, hroute]
      rfl
    refine ⟨net.table.printed (.getRoute (.v4 address)), congrArg (Reply.ran · _) (if_neg ?_), ?_⟩
    · rintro ⟨name, -, hcommand, -⟩
      simp [Command.getRoute, Command.showLink, Command.ip] at hcommand
    · rw [RouteTable.printed_getRoute, htold, Utf8.decodeLossy_encode]
      exact words_intercalate (List.forall_mem_cons.mpr ⟨isWord_textV4 address, hwords⟩)

end Net

end TunnelChain
