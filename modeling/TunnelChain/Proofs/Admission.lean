import TunnelChain.Proofs.Address
import TunnelChain.Proofs.Request

/-!
# Which requests make a tunnel

A request makes a tunnel exactly if no text field breaks a line and every range that counts is an
address of its family with a length in bounds. Otherwise the first thing wrong decides how it is
refused: the text fields come before the ranges, and the address of a range before its length.
-/

namespace TunnelChain

/-! ## Line breaks -/

def Unbroken (text : String) : Prop :=
  '\n' ∉ text.toList ∧ '\r' ∉ text.toList

theorem hasLineBreak_eq_false_iff {text : String} : hasLineBreak text = false ↔ Unbroken text := by
  simp only [hasLineBreak, List.any_eq_false, Unbroken, Bool.or_eq_true, decide_eq_true_eq, not_or]
  constructor
  · exact fun h => ⟨fun hmem => (h _ hmem).1 rfl, fun hmem => (h _ hmem).2 rfl⟩
  · rintro ⟨hfeed, hreturn⟩ c hc
    exact ⟨fun heq => hfeed (heq ▸ hc), fun heq => hreturn (heq ▸ hc)⟩

theorem hasLineBreak_eq_true_iff {text : String} : hasLineBreak text = true ↔ ¬ Unbroken text := by
  rw [← hasLineBreak_eq_false_iff, Bool.not_eq_false]

theorem Ip.unbroken_of_isText {family : Family} {text : String} (h : isText family text = true) :
    Unbroken text := by
  have hwrites := writes_of_isText h
  have hfeed : ¬ Writes family '\n' := by
    cases family <;> simp only [Writes] <;> decide
  have hreturn : ¬ Writes family '\r' := by
    cases family <;> simp only [Writes] <;> decide
  exact ⟨fun hmem => hfeed (hwrites _ hmem), fun hmem => hreturn (hwrites _ hmem)⟩

/-! ## The first failure -/

section FirstFailure

variable {ε α β : Type} {f : α → Except ε β}

theorem mapM_eq_error_iff {xs : List α} {error : ε} :
    xs.mapM f = .error error ↔ ∃ before x after, xs = before ++ x :: after ∧
      (∀ y ∈ before, ∃ z, f y = .ok z) ∧ f x = .error error := by
  induction xs with
  | nil => simp [pure, Except.pure]
  | cons first rest ih =>
    rw [List.mapM_cons]
    cases hfirst : f first with
    | error other =>
      constructor
      · intro h
        cases h
        exact ⟨[], first, rest, rfl, List.forall_mem_nil _, hfirst⟩
      · rintro ⟨before, x, after, heq, hbefore, hx⟩
        cases before with
        | nil =>
          obtain ⟨rfl, rfl⟩ := List.cons.inj heq
          cases hfirst.symm.trans hx
          rfl
        | cons y before =>
          obtain ⟨rfl, -⟩ := List.cons.inj heq
          obtain ⟨z, hz⟩ := hbefore first List.mem_cons_self
          cases hfirst.symm.trans hz
    | ok value =>
      have htail : ((.ok value : Except ε β) >>= fun value => do
          let others ← rest.mapM f
          pure (value :: others)) = .error error ↔ rest.mapM f = .error error := by
        cases rest.mapM f <;> simp [bind, Except.bind, pure, Except.pure]
      rw [htail, ih]
      constructor
      · rintro ⟨before, x, after, rfl, hbefore, hx⟩
        exact ⟨first :: before, x, after, rfl,
          List.forall_mem_cons.mpr ⟨⟨value, hfirst⟩, hbefore⟩, hx⟩
      · rintro ⟨before, x, after, heq, hbefore, hx⟩
        cases before with
        | nil =>
          obtain ⟨rfl, -⟩ := List.cons.inj heq
          cases hfirst.symm.trans hx
        | cons y before =>
          obtain ⟨-, rfl⟩ := List.cons.inj heq
          exact ⟨before, x, after, rfl, (List.forall_mem_cons.mp hbefore).2, hx⟩

theorem exists_mapM_eq_ok_iff {xs : List α} :
    (∃ ys, xs.mapM f = .ok ys) ↔ ∀ x ∈ xs, ∃ y, f x = .ok y := by
  constructor
  · rintro ⟨ys, h⟩
    induction xs generalizing ys with
    | nil => exact List.forall_mem_nil _
    | cons x rest ih =>
      rw [List.mapM_cons] at h
      obtain ⟨y, hy, h⟩ := Json.bind_eq_ok.mp h
      obtain ⟨others, hothers, -⟩ := Json.bind_eq_ok.mp h
      exact List.forall_mem_cons.mpr ⟨⟨y, hy⟩, ih others hothers⟩
  · intro h
    cases hresult : xs.mapM f with
    | ok ys => exact ⟨ys, rfl⟩
    | error error =>
      obtain ⟨before, x, after, rfl, -, hx⟩ := mapM_eq_error_iff.mp hresult
      obtain ⟨y, hy⟩ := h x (List.mem_append_right _ List.mem_cons_self)
      cases hx.symm.trans hy

end FirstFailure

/-! ## Ranges -/

namespace RangeEntry

def maxLength (entry : RangeEntry) : Nat :=
  if entry.isIpv6 then 128 else 32

/-- Whether an entry is a range: an address of its family, and no more of it than the address
has. -/
structure Valid (entry : RangeEntry) : Prop where
  address : Ip.isText (.ofIsIpv6 entry.isIpv6) entry.address = true
  length : entry.length.toNat ≤ entry.maxLength

theorem maxPrefixLength_ofIsIpv6 (entry : RangeEntry) :
    (Family.ofIsIpv6 entry.isIpv6).maxPrefixLength = entry.maxLength := by
  unfold maxLength
  cases entry.isIpv6 <;> rfl

/-- What a range keeps of its entry: the address as it is written, the length as a number, and the
family. -/
structure Becomes (entry : RangeEntry) (range : AddressRange) : Prop where
  address : range.address = entry.address
  length : range.length.toNat = entry.length.toNat
  family : range.family.isIpv6 = entry.isIpv6

end RangeEntry

namespace AddressRange

variable {entry : RangeEntry} {range : AddressRange}

theorem exists_ofEntry_iff : (∃ range, ofEntry entry = .ok range) ↔ entry.Valid := by
  constructor
  · rintro ⟨range, hrange⟩
    obtain ⟨haddress, hlength, -⟩ := ofEntry_eq_ok_iff.mp hrange
    exact ⟨haddress, entry.maxPrefixLength_ofIsIpv6 ▸ hlength⟩
  · rintro ⟨haddress, hlength⟩
    exact ⟨_, ofEntry_eq_ok_iff.mpr ⟨haddress, entry.maxPrefixLength_ofIsIpv6 ▸ hlength, rfl⟩⟩

theorem becomes_of_ofEntry (h : ofEntry entry = .ok range) : entry.Becomes range := by
  have hentry := toEntry_of_ofEntry h
  exact ⟨congrArg RangeEntry.address hentry,
    (UInt8.toNat_toUInt32 _).symm.trans (congrArg (·.length.toNat) hentry),
    congrArg RangeEntry.isIpv6 hentry⟩

/-- An entry is refused for its address, or else for its length. -/
theorem ofEntry_eq_error_iff {error : TunnelError} : ofEntry entry = .error error ↔
    (Ip.isText (.ofIsIpv6 entry.isIpv6) entry.address = false ∧
        error = .badAddress entry.address (.ofIsIpv6 entry.isIpv6)) ∨
      (Ip.isText (.ofIsIpv6 entry.isIpv6) entry.address = true ∧
        entry.maxLength < entry.length.toNat ∧
        error = .badLength entry.address entry.length) := by
  unfold ofEntry
  dsimp only
  rw [entry.maxPrefixLength_ofIsIpv6]
  cases Ip.isText (.ofIsIpv6 entry.isIpv6) entry.address with
  | false => simp [eq_comm]
  | true =>
    by_cases hlength : entry.maxLength < entry.length.toNat
    · simp [hlength, eq_comm]
    · simp [hlength]

/-- A length is compared before it is narrowed to a byte. -/
example : ofEntry ⟨"10.0.0.0", 256, false⟩ = .error (.badLength "10.0.0.0" 256) := by
  decide +kernel

end AddressRange

/-! ## Requests -/

def Tunnel.texts (tunnel : Tunnel) : List String :=
  [tunnel.privateKey, tunnel.deviceIpv4, tunnel.deviceIpv6, tunnel.gatewayIpv4, tunnel.gatewayIpv6,
    tunnel.publicKey, tunnel.serverIpv4,
    tunnel.serverIpv6] ++ tunnel.ranges.map AddressRange.address

namespace TunnelRequest

variable {request : TunnelRequest} {nameOf : HopIndex → String} {tunnel : Tunnel}
  {error : TunnelError}

/-- Whether nothing is wrong with a request: no text field breaks a line, and its entries are
ranges. IPv6 entries count only when IPv6 is enabled. -/
structure Valid (request : TunnelRequest) : Prop where
  unbroken : ∀ field ∈ request.textFields, Unbroken field.2
  ranges : ∀ entry ∈ request.ranges, (entry.isIpv6 = true → request.ipv6Enabled = true) →
    entry.Valid

/-- What a request is refused for: its first text field that breaks a line; if there is none, its
first entry that counts and is no range. -/
inductive Refusal (request : TunnelRequest) : TunnelError → Prop where
  | lineBreak {before after : List (String × String)} {field value : String}
      (hfields : request.textFields = before ++ (field, value) :: after)
      (hbefore : ∀ other ∈ before, Unbroken other.2) (hbroken : ¬ Unbroken value) :
      Refusal request (.lineBreak field)
  | badAddress {before after : List RangeEntry} {entry : RangeEntry}
      (hfields : ∀ field ∈ request.textFields, Unbroken field.2)
      (hentries : request.keptRanges = before ++ entry :: after)
      (hbefore : ∀ other ∈ before, other.Valid)
      (haddress : Ip.isText (.ofIsIpv6 entry.isIpv6) entry.address = false) :
      Refusal request (.badAddress entry.address (.ofIsIpv6 entry.isIpv6))
  | badLength {before after : List RangeEntry} {entry : RangeEntry}
      (hfields : ∀ field ∈ request.textFields, Unbroken field.2)
      (hentries : request.keptRanges = before ++ entry :: after)
      (hbefore : ∀ other ∈ before, other.Valid)
      (haddress : Ip.isText (.ofIsIpv6 entry.isIpv6) entry.address = true)
      (hlength : entry.maxLength < entry.length.toNat) :
      Refusal request (.badLength entry.address entry.length)

/-- What a tunnel is that comes from a request: the fields of the request as they are, a range for
each entry that counts, and no line break anywhere. -/
structure Yields (nameOf : HopIndex → String) (request : TunnelRequest) (tunnel : Tunnel) :
    Prop where
  fields : tunnel = ⟨request.hop.getD 0, request.privateKey, request.deviceIpv4, request.deviceIpv6,
    request.gatewayIpv4, request.gatewayIpv6, request.publicKey, request.serverIpv4,
    request.serverIpv6,
    request.port, request.ipv6Enabled, tunnel.ranges, nameOf (request.hop.getD 0)⟩
  ranges : List.Forall₂ RangeEntry.Becomes request.keptRanges tunnel.ranges
  unbroken : ∀ text ∈ tunnel.texts, Unbroken text

theorem mem_keptRanges {entry : RangeEntry} : entry ∈ request.keptRanges ↔
    entry ∈ request.ranges ∧ (entry.isIpv6 = true → request.ipv6Enabled = true) := by
  rw [keptRanges, List.mem_filter]
  cases entry.isIpv6 <;> simp

/-- A request whose text fields are in order is decided by its ranges. -/
theorem ofRequest_of_unbroken (nameOf : HopIndex → String)
    (h : ∀ field ∈ request.textFields, Unbroken field.2) :
    Tunnel.ofRequest nameOf request =
      (request.keptRanges.mapM AddressRange.ofEntry).map fun ranges =>
      ⟨request.hop.getD 0, request.privateKey, request.deviceIpv4, request.deviceIpv6,
        request.gatewayIpv4, request.gatewayIpv6, request.publicKey, request.serverIpv4,
        request.serverIpv6, request.port, request.ipv6Enabled, ranges,
        nameOf (request.hop.getD 0)⟩ := by
  have hnone : request.textFields.find? (hasLineBreak ·.2) = none := by
    refine List.find?_eq_none.mpr fun field hfield => ?_
    rw [hasLineBreak_eq_false_iff.mpr (h field hfield)]
    exact Bool.false_ne_true
  unfold Tunnel.ofRequest
  rw [hnone]
  cases request.keptRanges.mapM AddressRange.ofEntry <;> rfl

/-- The first text field that breaks a line is what a request is refused for, whatever its ranges
are. -/
theorem ofRequest_of_lineBreak (nameOf : HopIndex → String) {before after : List (String × String)}
    {field value : String} (hfields : request.textFields = before ++ (field, value) :: after)
    (hbefore : ∀ other ∈ before, Unbroken other.2) (hbroken : ¬ Unbroken value) :
    Tunnel.ofRequest nameOf request = .error (.lineBreak field) := by
  have hfind : request.textFields.find? (hasLineBreak ·.2) = some (field, value) := by
    refine List.find?_eq_some_iff_append.mpr
      ⟨hasLineBreak_eq_true_iff.mpr hbroken, before, after, hfields, fun other hother => ?_⟩
    rw [hasLineBreak_eq_false_iff.mpr (hbefore other hother)]
    rfl
  unfold Tunnel.ofRequest
  rw [hfind]

theorem exists_first_broken (h : ¬ ∀ field ∈ request.textFields, Unbroken field.2) :
    ∃ before field value after, request.textFields = before ++ (field, value) :: after ∧
      (∀ other ∈ before, Unbroken other.2) ∧ ¬ Unbroken value := by
  cases hfind : request.textFields.find? (hasLineBreak ·.2) with
  | none =>
    refine absurd (fun field hfield => ?_) h
    exact hasLineBreak_eq_false_iff.mp
      (Bool.eq_false_iff.mpr (List.find?_eq_none.mp hfind field hfield))
  | some found =>
    obtain ⟨hbroken, before, after, hfields, hbefore⟩ := List.find?_eq_some_iff_append.mp hfind
    refine ⟨before, found.1, found.2, after, hfields, fun other hother => ?_,
      hasLineBreak_eq_true_iff.mp hbroken⟩
    exact hasLineBreak_eq_false_iff.mp (by simpa using hbefore other hother)

theorem unbroken_of_ofRequest (h : Tunnel.ofRequest nameOf request = .ok tunnel) :
    ∀ field ∈ request.textFields, Unbroken field.2 := by
  by_contra hbroken
  obtain ⟨_, _, _, _, hfields, hbefore, hvalue⟩ := exists_first_broken hbroken
  cases (ofRequest_of_lineBreak nameOf hfields hbefore hvalue).symm.trans h

theorem valid_of_ofRequest (h : Tunnel.ofRequest nameOf request = .ok tunnel) : request.Valid := by
  refine ⟨unbroken_of_ofRequest h, fun entry hentry hcounts => ?_⟩
  obtain ⟨ranges, hranges, -⟩ := Tunnel.eq_of_ofRequest h
  exact AddressRange.exists_ofEntry_iff.mp
    (exists_mapM_eq_ok_iff.mp ⟨ranges, hranges⟩ entry (mem_keptRanges.mpr ⟨hentry, hcounts⟩))

theorem yields_of_ofRequest (h : Tunnel.ofRequest nameOf request = .ok tunnel) :
    request.Yields nameOf tunnel := by
  have hvalid := valid_of_ofRequest h
  obtain ⟨ranges, hranges, rfl⟩ := Tunnel.eq_of_ofRequest h
  refine ⟨rfl,
    (AddressRange.forall₂_of_mapM hranges).imp fun _ _ => AddressRange.becomes_of_ofEntry,
    List.forall_mem_append.mpr ⟨?_, ?_⟩⟩
  · have htexts : ∀ text ∈ request.textFields.map (·.2), Unbroken text :=
      List.forall_mem_map.mpr hvalid.unbroken
    exact htexts
  · refine List.forall_mem_map.mpr fun range hrange => ?_
    have hentry : range.toEntry ∈ request.keptRanges := by
      rw [← AddressRange.map_toEntry_of_mapM hranges]
      exact List.mem_map.mpr ⟨range, hrange, rfl⟩
    obtain ⟨hentry, hcounts⟩ := mem_keptRanges.mp hentry
    exact Ip.unbroken_of_isText (hvalid.ranges _ hentry hcounts).address

theorem exists_ofRequest (nameOf : HopIndex → String) (h : request.Valid) :
    ∃ tunnel, Tunnel.ofRequest nameOf request = .ok tunnel := by
  obtain ⟨ranges, hranges⟩ := exists_mapM_eq_ok_iff.mpr fun entry hentry =>
    have hcounts := mem_keptRanges.mp hentry
    AddressRange.exists_ofEntry_iff.mpr (h.ranges entry hcounts.1 hcounts.2)
  rw [ofRequest_of_unbroken nameOf h.unbroken, hranges]
  exact ⟨_, rfl⟩

/-- A request whose text fields are in order is refused for the first entry that is no range. -/
theorem ofRequest_eq_error_iff (nameOf : HopIndex → String)
    (h : ∀ field ∈ request.textFields, Unbroken field.2) :
    Tunnel.ofRequest nameOf request = .error error ↔
      ∃ before entry after, request.keptRanges = before ++ entry :: after ∧
        (∀ other ∈ before, other.Valid) ∧ AddressRange.ofEntry entry = .error error := by
  simp only [← AddressRange.exists_ofEntry_iff]
  rw [ofRequest_of_unbroken nameOf h, ← mapM_eq_error_iff]
  cases request.keptRanges.mapM AddressRange.ofEntry <;> simp [Except.map]

theorem refusal_of_ofRequest (h : Tunnel.ofRequest nameOf request = .error error) :
    request.Refusal error := by
  by_cases hfields : ∀ field ∈ request.textFields, Unbroken field.2
  · obtain ⟨before, entry, after, hentries, hbefore, hentry⟩ :=
      (ofRequest_eq_error_iff nameOf hfields).mp h
    rcases AddressRange.ofEntry_eq_error_iff.mp hentry with
      ⟨haddress, rfl⟩ | ⟨haddress, hlength, rfl⟩
    · exact .badAddress hfields hentries hbefore haddress
    · exact .badLength hfields hentries hbefore haddress hlength
  · obtain ⟨before, field, value, after, hsplit, hbefore, hbroken⟩ := exists_first_broken hfields
    cases (ofRequest_of_lineBreak nameOf hsplit hbefore hbroken).symm.trans h
    exact .lineBreak hsplit hbefore hbroken

theorem ofRequest_of_refusal (nameOf : HopIndex → String) (h : request.Refusal error) :
    Tunnel.ofRequest nameOf request = .error error := by
  cases h with
  | lineBreak hfields hbefore hbroken => exact ofRequest_of_lineBreak nameOf hfields hbefore hbroken
  | badAddress hfields hentries hbefore haddress =>
    exact (ofRequest_eq_error_iff nameOf hfields).mpr ⟨_, _, _, hentries, hbefore,
      AddressRange.ofEntry_eq_error_iff.mpr (.inl ⟨haddress, rfl⟩)⟩
  | badLength hfields hentries hbefore haddress hlength =>
    exact (ofRequest_eq_error_iff nameOf hfields).mpr ⟨_, _, _, hentries, hbefore,
      AddressRange.ofEntry_eq_error_iff.mpr (.inr ⟨haddress, hlength, rfl⟩)⟩

/-- **Admission.** A request makes a tunnel exactly if nothing is wrong with it; the tunnel then
says what the request says. Otherwise the first thing wrong is what it is refused for. -/
theorem ofRequest_decided (nameOf : HopIndex → String) (request : TunnelRequest) :
    ((∃ tunnel, Tunnel.ofRequest nameOf request = .ok tunnel) ↔ request.Valid) ∧
      (∀ tunnel, Tunnel.ofRequest nameOf request = .ok tunnel → request.Yields nameOf tunnel) ∧
      ∀ error, Tunnel.ofRequest nameOf request = .error error ↔ request.Refusal error :=
  ⟨⟨fun ⟨_, h⟩ => valid_of_ofRequest h, exists_ofRequest nameOf⟩, fun _ => yields_of_ofRequest,
    fun _ => ⟨refusal_of_ofRequest, ofRequest_of_refusal nameOf⟩⟩

end TunnelRequest

end TunnelChain
