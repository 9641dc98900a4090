import TunnelChain.Proofs.Json.Visiting
import TunnelChain.Proofs.Naming
import TunnelChain.Proofs.Transport

/-!
# What a request comes to

A request is understood as it was meant when it arrives as a message. The tunnel that it describes
says again what was asked for, as far as it counts, so that a tunnel that is asked for by what it
says itself is the same tunnel.
-/

namespace TunnelChain

open Json

/-! ## Ranges -/

namespace AddressRange

variable {entry : RangeEntry} {range : AddressRange} {entries : List RangeEntry}
  {ranges : List AddressRange}

/-- A range is made of an entry whose address is one of its family, if the length is in bounds. -/
theorem ofEntry_eq_ok_iff : ofEntry entry = .ok range ↔
    Ip.isText (.ofIsIpv6 entry.isIpv6) entry.address = true ∧
      entry.length.toNat ≤ (Family.ofIsIpv6 entry.isIpv6).maxPrefixLength ∧
      range = ⟨entry.address, entry.length.toUInt8, .ofIsIpv6 entry.isIpv6⟩ := by
  unfold ofEntry
  dsimp only
  cases hvalid : Ip.isText (.ofIsIpv6 entry.isIpv6) entry.address with
  | false => exact ⟨(nomatch ·), fun h => nomatch h.1⟩
  | true =>
    rw [if_neg (by decide)]
    by_cases hlength : entry.length.toNat ≤ (Family.ofIsIpv6 entry.isIpv6).maxPrefixLength
    · rw [if_neg (Nat.not_lt.mpr hlength), Except.ok.injEq, eq_comm]
      exact ⟨fun h => ⟨rfl, hlength, h⟩, fun h => h.2.2⟩
    · rw [if_pos (Nat.lt_of_not_le hlength)]
      exact ⟨(nomatch ·), fun h => absurd h.2.1 hlength⟩

/-- No length is cut off: what is in bounds fits in a byte. -/
theorem toEntry_of_ofEntry (h : ofEntry entry = .ok range) : range.toEntry = entry := by
  obtain ⟨-, hlength, rfl⟩ := ofEntry_eq_ok_iff.mp h
  obtain ⟨address, length, isIpv6⟩ := entry
  dsimp only at hlength
  have hmax : (Family.ofIsIpv6 isIpv6).maxPrefixLength < 256 := by
    cases isIpv6 <;> decide
  have hbyte : length.toUInt8.toUInt32 = length := by
    apply UInt32.toNat_inj.mp
    rw [UInt8.toNat_toUInt32, UInt32.toNat_toUInt8, Nat.mod_eq_of_lt (by omega)]
  have hfamily : (Family.ofIsIpv6 isIpv6).isIpv6 = isIpv6 := by
    cases isIpv6 <;> rfl
  simp only [toEntry, hbyte, hfamily]

theorem forall₂_of_mapM (h : entries.mapM ofEntry = .ok ranges) :
    List.Forall₂ (fun entry range => ofEntry entry = .ok range) entries ranges := by
  induction entries generalizing ranges with
  | nil =>
    cases h
    exact .nil
  | cons entry rest ih =>
    rw [List.mapM_cons, bind_eq_ok] at h
    obtain ⟨range, hentry, h⟩ := h
    obtain ⟨others, hrest, h⟩ := bind_eq_ok.mp h
    cases h
    exact .cons hentry (ih hrest)

theorem map_toEntry_of_mapM (h : entries.mapM ofEntry = .ok ranges) :
    ranges.map toEntry = entries := by
  have hall := forall₂_of_mapM h
  clear h
  induction hall with
  | nil => rfl
  | cons hfirst _ ih => rw [List.map_cons, toEntry_of_ofEntry hfirst, ih]

end AddressRange

def RangeEntry.text (entry : RangeEntry) : String :=
  entry.address ++ "/" ++ toString entry.length.toNat

theorem AddressRange.map_text_of_mapM {entries : List RangeEntry} {ranges : List AddressRange}
    (h : entries.mapM ofEntry = .ok ranges) : ranges.map text = entries.map RangeEntry.text := by
  rw [← map_toEntry_of_mapM h, List.map_map]
  rfl

/-! ## Tunnels -/

/-- A request as far as it counts: with its hop named, and without the ranges that do not count. -/
def TunnelRequest.effective (request : TunnelRequest) : TunnelRequest :=
  { request with hop := some (request.hop.getD 0), ranges := request.keptRanges }

theorem TunnelRequest.keptRanges_effective (request : TunnelRequest) :
    request.effective.keptRanges = request.keptRanges := by
  change (request.ranges.filter _).filter _ = request.ranges.filter _
  rw [List.filter_filter]
  simp only [effective, Bool.and_self]

namespace Tunnel

variable {nameOf : HopIndex → String} {request : TunnelRequest} {tunnel : Tunnel}

theorem hop_of_ofRequest (h : ofRequest nameOf request = .ok tunnel) :
    tunnel.hop = request.hop.getD 0 := by
  obtain ⟨ranges, -, rfl⟩ := eq_of_ofRequest h
  rfl

/-- What does not count of a request decides nothing. -/
theorem ofRequest_effective (nameOf : HopIndex → String) (request : TunnelRequest) :
    ofRequest nameOf request.effective = ofRequest nameOf request := by
  have htexts : request.effective.textFields = request.textFields := rfl
  unfold ofRequest
  rw [htexts, request.keptRanges_effective]
  rfl

theorem toRequest_of_ofRequest (h : ofRequest nameOf request = .ok tunnel) :
    tunnel.toRequest = request.effective := by
  obtain ⟨ranges, hranges, rfl⟩ := eq_of_ofRequest h
  rw [toRequest, AddressRange.map_toEntry_of_mapM hranges]
  rfl

/-- Where IPv6 is off, no range of a tunnel is an IPv6 one. -/
theorem family_of_ofRequest (h : ofRequest nameOf request = .ok tunnel)
    (hoff : tunnel.ipv6Enabled = false) : ∀ range ∈ tunnel.ranges, range.family = .ipv4 := by
  obtain ⟨ranges, hranges, rfl⟩ := eq_of_ofRequest h
  intro range hrange
  have hkept : range.toEntry ∈ request.keptRanges := by
    rw [← AddressRange.map_toEntry_of_mapM hranges]
    exact List.mem_map_of_mem hrange
  have hcounts := (List.mem_filter.mp hkept).2
  rw [show request.ipv6Enabled = false from hoff, Bool.or_false] at hcounts
  cases hfamily : range.family with
  | ipv4 => rfl
  | ipv6 => simp [AddressRange.toEntry, hfamily, Family.isIpv6] at hcounts

/-- An activation that arrives describes the tunnel that was asked for. -/
theorem ofBody_parcel (nameOf : HopIndex → String) (request : TunnelRequest) :
    ofBody nameOf (Message.client (.activate request)).parcel.body = ofRequest nameOf request := by
  rw [ofBody, Json.Reader.ofJson]
  change (Except.mapError _ (TunnelRequest.reader _
    (Json.obj (("type", .str "activate") :: request.fields)).sorted.toDraft) >>= _) = _
  rw [request.read_fields]
  rfl

/-- **Asking again.** A tunnel is asked for again by a message that says what the tunnel says,
however that is cut on its way; it is the same tunnel. The message says what the first one asked
for, and all of its ranges count: none of them is an IPv6 one where IPv6 is off. -/
theorem ofBody_of_toRequest {body : Json} (h : ofBody nameOf body = .ok tunnel)
    {chunks : List Bytes}
    (hchunks : chunks.flatten = (ClientMessage.activate tunnel.toRequest).encode) :
    (∃ parcel, Brings chunks parcel ∧ parcel.kind = "activate" ∧
        ofBody nameOf parcel.body = .ok tunnel) ∧
      (∃ request, TunnelRequest.reader.ofJson body = .ok request ∧
        tunnel.toRequest = request.effective) ∧
      tunnel.toRequest.keptRanges = tunnel.toRequest.ranges ∧
      (tunnel.ipv6Enabled = false → ∀ range ∈ tunnel.ranges, range.family = .ipv4) := by
  obtain ⟨request, hread, hrequest⟩ := exists_request_of_ofBody h
  have hwritten := toRequest_of_ofRequest hrequest
  refine ⟨⟨_, (Message.client (.activate tunnel.toRequest)).brings_encode hchunks, rfl, ?_⟩,
    ⟨request, hread, hwritten⟩, ?_, family_of_ofRequest hrequest⟩
  · rw [ofBody_parcel, hwritten, ofRequest_effective, hrequest]
  · rw [hwritten]
    exact request.keptRanges_effective

/-- A request with characters that are escaped, no hop, and an IPv6 range that does not count. -/
def intricateBody : Json :=
  .obj [("type", .str "activate"), ("privateKey", .str "\"k\\\t\u0007 \u00e9 🔑"),
    ("deviceIpv4Address", .str "10.64.0.2"), ("deviceIpv6Address", .str "fc00::2"),
    ("serverIpv4Gateway", .str "10.64.0.1"), ("serverIpv6Gateway", .str "fc00::1"),
    ("serverPublicKey", .str ""), ("serverIpv4AddrIn", .str "198.51.100.1"),
    ("serverIpv6AddrIn", .str "2001:db8::1"), ("serverPort", natJson 65535),
    ("ipv6Enabled", .bool false),
    ("allowedIPAddressRanges", .arr [(RangeEntry.mk "0.0.0.0" 0 false).toJson,
      (RangeEntry.mk "::" 0 true).toJson, (RangeEntry.mk "10.0.0.1" 32 false).toJson])]

/-- The tunnel that it describes. -/
def intricate : Tunnel :=
  ⟨0, "\"k\\\t\u0007 \u00e9 🔑", "10.64.0.2", "fc00::2", "10.64.0.1", "fc00::1", "", "198.51.100.1",
    "2001:db8::1", 65535, false, [⟨"0.0.0.0", 0, .ipv4⟩, ⟨"10.0.0.1", 32, .ipv4⟩], "hl"⟩

/-- What it says itself, cut within the last character of its key. -/
def intricateCut : List Bytes :=
  cutAt 65 (ClientMessage.activate intricate.toRequest).encode

theorem ofBody_of_toRequest_intricate :
    ofBody (Naming.mk "hl").name intricateBody = .ok intricate ∧
      intricateCut.flatten = (ClientMessage.activate intricate.toRequest).encode ∧
      ∃ parcel, Brings intricateCut parcel ∧
        ofBody (Naming.mk "hl").name parcel.body = .ok intricate := by
  have hbody : ofBody (Naming.mk "hl").name intricateBody = .ok intricate := by decide +kernel
  have hcut : intricateCut.flatten = (ClientMessage.activate intricate.toRequest).encode :=
    flatten_cutAt _ _
  obtain ⟨⟨parcel, hbrings, -, hparcel⟩, -⟩ := ofBody_of_toRequest hbody hcut
  exact ⟨hbody, hcut, parcel, hbrings, hparcel⟩

end Tunnel

/-! ## Hops -/

theorem hopHint_of_field? {body : Json} {named : Option HopIndex}
    (h : body.field? "hopindex" = named.map fun hop => natJson hop.toNat) :
    hopHint body = named.getD 0 := by
  cases named with
  | none =>
    have hread : (body.field? "hopindex").bind Json.natural? = none := by
      rw [h]
      rfl
    rw [hopHint, hread]
    rfl
  | some hop =>
    have hread : (body.field? "hopindex").bind Json.natural? = some hop.toNat := by
      rw [h]
      rfl
    rw [hopHint, hread]
    dsimp only
    rw [if_pos hop.toNat_lt, UInt32.ofNat_toNat]
    rfl

theorem hopHint_deactivate (hop : Option HopIndex) :
    hopHint (Message.client (.deactivate hop)).parcel.body = hop.getD 0 := by
  have hnodup := (ClientMessage.deactivate hop).nodup_names
  refine hopHint_of_field? ((Json.field?_sorted hnodup "hopindex").trans ?_)
  simp only [ClientMessage.fields, hopField, lookup_optionField, lookup_cons_ite]
  cases hop <;> rfl

/-- A refused activation is answered with the hop that it asked for. -/
theorem hopHint_activate (request : TunnelRequest) :
    hopHint (Message.client (.activate request)).parcel.body = request.hop.getD 0 := by
  have hnodup := (ClientMessage.activate request).nodup_names
  refine hopHint_of_field? ((Json.field?_sorted hnodup "hopindex").trans ?_)
  simp only [ClientMessage.fields, TunnelRequest.fields, hopField, lookup_optionField,
    List.lookup_append, lookup_cons_ite]
  cases request.hop <;> rfl

end TunnelChain
