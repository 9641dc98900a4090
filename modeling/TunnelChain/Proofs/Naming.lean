import Mathlib.Algebra.Ring.Nat
import TunnelChain.Hop.Tunnel
import TunnelChain.Decimal.Natural

/-!
# Names of hops

No two hops share a name, whatever the stem: the exit hop's name is the shortest, and the number
that ends a relay's name reads back.
-/

namespace TunnelChain

theorem Decimal.toString_injective {m n : Nat} (h : toString m = toString n) : m = n := by
  have hread := natural?_toString m
  rw [h, natural?_toString] at hread
  exact (Option.some.inj hread).symm

theorem Decimal.toNat_lt_of_isDigit {c : Char} (h : c.isDigit = true) : c.toNat < 0x80 := by
  rw [Char.isDigit, Bool.and_eq_true, decide_eq_true_eq, decide_eq_true_eq] at h
  have hnine : c.val.toNat ≤ 57 := UInt32.le_iff_toNat_le.mp h.2
  exact Nat.lt_of_le_of_lt hnine (by decide)

namespace Utf8

theorem size_append (left right : String) : size (left ++ right) = size left + size right := by
  rw [size, encode, String.toList_append, List.flatMap_append, List.length_append]
  rfl

theorem length_encodeChar_ascii {c : Char} (h : c.toNat < 0x80) : (encodeChar c).length = 1 := by
  unfold encodeChar
  rw [if_pos h]
  rfl

/-- A text of ASCII characters has as many bytes as characters. -/
theorem size_ascii {text : String} (h : ∀ c ∈ text.toList, c.toNat < 0x80) :
    size text = text.toList.length := by
  rw [size, encode]
  generalize text.toList = chars at h
  induction chars with
  | nil => rfl
  | cons c rest ih =>
    obtain ⟨hc, hrest⟩ := List.forall_mem_cons.mp h
    rw [List.flatMap_cons, List.length_append, length_encodeChar_ascii hc, ih hrest,
      List.length_cons]
    omega

theorem size_toString (n : Nat) : size (toString n) = (Nat.toDigits 10 n).length := by
  have hascii : ∀ c ∈ (toString n).toList, c.toNat < 0x80 := by
    intro c hc
    rw [Decimal.toList_toString] at hc
    exact Decimal.toNat_lt_of_isDigit (Decimal.isDigit_of_mem_toDigits hc)
  rw [size_ascii hascii, Decimal.toList_toString]

end Utf8

namespace Naming

variable (naming : Naming)

theorem toList_name_relay {hop : HopIndex} (hrelay : hop ≠ 0) :
    (naming.name hop).toList =
      naming.stem.toList ++ ("hop".toList ++ (toString hop.toNat).toList) := by
  simp [name, hrelay, String.toList_append]

theorem name_relay_ne_stem {hop : HopIndex} (hrelay : hop ≠ 0) : naming.name hop ≠ naming.stem := by
  intro heq
  have hlength := congrArg (fun text : String => text.toList.length) heq
  simp only [toList_name_relay naming hrelay, List.length_append] at hlength
  have hword : "hop".toList.length = 3 := rfl
  omega

theorem name_injective {left right : HopIndex} (h : naming.name left = naming.name right) :
    left = right := by
  by_cases hleft : left = 0
  · by_cases hright : right = 0
    · rw [hleft, hright]
    · have hstem : naming.name left = naming.stem := by simp [name, hleft]
      exact absurd (h.symm.trans hstem) (naming.name_relay_ne_stem hright)
  · by_cases hright : right = 0
    · have hstem : naming.name right = naming.stem := by simp [name, hright]
      exact absurd (h.trans hstem) (naming.name_relay_ne_stem hleft)
    · have hlist := congrArg String.toList h
      rw [toList_name_relay naming hleft, toList_name_relay naming hright] at hlist
      have hnumber := List.append_cancel_left (List.append_cancel_left hlist)
      exact UInt32.toNat_inj.mp (Decimal.toString_injective (String.toList_injective hnumber))

theorem name_eq_iff {left right : HopIndex} : naming.name left = naming.name right ↔ left = right :=
  ⟨naming.name_injective, congrArg naming.name⟩

theorem size_name_relay {hop : HopIndex} (hrelay : hop ≠ 0) :
    Utf8.size (naming.name hop) =
      Utf8.size naming.stem + 3 + (Nat.toDigits 10 hop.toNat).length := by
  have hword : Utf8.size "hop" = 3 := by decide
  rw [name, if_neg hrelay, Utf8.size_append, Utf8.size_append, hword, Utf8.size_toString]

/-- How many places a relay's number takes up decides how long its name is. -/
theorem size_name_le_iff {hop : HopIndex} (hrelay : hop ≠ 0) {places : Nat} (hplaces : 0 < places) :
    Utf8.size (naming.name hop) ≤ Utf8.size naming.stem + 3 + places ↔ hop.toNat < 10 ^ places := by
  rw [size_name_relay naming hrelay, Nat.add_le_add_iff_left,
    Nat.length_toDigits_le_iff (by decide) hplaces]

/-- The number of one of the first hundred hops has at most two digits. -/
theorem size_name_le {hop : HopIndex} (h : hop.toNat < 100) :
    Utf8.size (naming.name hop) ≤ Utf8.size naming.stem + 5 := by
  by_cases hexit : hop = 0
  · rw [name, if_pos hexit]
    exact Nat.le_add_right _ 5
  · exact (size_name_le_iff naming hexit Nat.two_pos).mpr h

end Naming

namespace Tunnel

/-- A tunnel takes over what its request says; of the ranges, those that count. -/
theorem eq_of_ofRequest {nameOf : HopIndex → String} {request : TunnelRequest} {tunnel : Tunnel}
    (h : ofRequest nameOf request = .ok tunnel) :
    ∃ ranges, request.keptRanges.mapM AddressRange.ofEntry = .ok ranges ∧
      tunnel = ⟨request.hop.getD 0, request.privateKey, request.deviceIpv4, request.deviceIpv6,
        request.gatewayIpv4, request.gatewayIpv6, request.publicKey, request.serverIpv4,
        request.serverIpv6, request.port, request.ipv6Enabled, ranges,
        nameOf (request.hop.getD 0)⟩ := by
  unfold ofRequest at h
  split at h
  · cases h
  · cases hranges : request.keptRanges.mapM AddressRange.ofEntry with
    | error error => simp [hranges, bind, Except.bind] at h
    | ok ranges =>
      simp only [hranges, bind, Except.bind, pure, Except.pure, Except.ok.injEq] at h
      exact ⟨ranges, rfl, h.symm⟩

theorem name_of_ofRequest {nameOf : HopIndex → String} {request : TunnelRequest} {tunnel : Tunnel}
    (h : ofRequest nameOf request = .ok tunnel) : tunnel.name = nameOf tunnel.hop := by
  obtain ⟨ranges, -, rfl⟩ := eq_of_ofRequest h
  rfl

theorem exists_request_of_ofBody {nameOf : HopIndex → String} {body : Json} {tunnel : Tunnel}
    (h : ofBody nameOf body = .ok tunnel) :
    ∃ request, TunnelRequest.reader.ofJson body = .ok request ∧
      ofRequest nameOf request = .ok tunnel := by
  unfold ofBody at h
  cases hread : TunnelRequest.reader.ofJson body with
  | error fault =>
    rw [hread] at h
    cases h
  | ok request =>
    rw [hread] at h
    exact ⟨request, rfl, h⟩

theorem name_of_ofBody {nameOf : HopIndex → String} {body : Json} {tunnel : Tunnel}
    (h : ofBody nameOf body = .ok tunnel) : tunnel.name = nameOf tunnel.hop := by
  obtain ⟨request, -, hrequest⟩ := exists_request_of_ofBody h
  exact name_of_ofRequest hrequest

end Tunnel

end TunnelChain
