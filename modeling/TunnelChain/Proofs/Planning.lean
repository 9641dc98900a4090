import TunnelChain.Client.Plan

/-!
# What a plan asks for

One request for each server, numbered from the exit hop outward.
-/

namespace TunnelChain

namespace Plan

theorem map_hop_relayRequests (plan : Plan) (hop : Nat) (inward : Server) (relays : List Server) :
    (plan.relayRequests hop inward relays).map (·.hop) =
      (List.range' hop relays.length).map fun index => some (UInt32.ofNat index) := by
  induction relays generalizing hop inward with
  | nil => rfl
  | cons server rest ih =>
    rw [relayRequests, List.map_cons, ih, List.length_cons, List.range'_succ, List.map_cons]
    rfl

theorem map_hop_requests (plan : Plan) :
    plan.requests.map (·.hop) = (List.range plan.hopCount).map fun index =>
      some (UInt32.ofNat index) := by
  unfold requests hopCount
  cases plan.servers with
  | nil => rfl
  | cons exit relays =>
    rw [List.map_cons, map_hop_relayRequests, List.length_cons, List.range_eq_range',
      List.range'_succ, List.map_cons]
    rfl

theorem length_requests (plan : Plan) : plan.requests.length = plan.hopCount := by
  have hlength := congrArg List.length plan.map_hop_requests
  simpa using hlength

theorem getElem?_relayRequests (plan : Plan) (hop : Nat) (inward : Server) (relays : List Server)
    (index : Nat) :
    (plan.relayRequests hop inward relays)[index]? =
      (inward :: relays)[index]?.bind fun inner => relays[index]?.map fun server =>
        plan.request (.ofNat (hop + index)) (relayDevice (.ofNat (hop + index))) server
          (relayRanges server inner) := by
  induction relays generalizing hop inward index with
  | nil => cases index <;> rfl
  | cons server rest ih =>
    cases index with
    | zero => rfl
    | succ index =>
      rw [relayRequests, List.getElem?_cons_succ, ih, List.getElem?_cons_succ,
        List.getElem?_cons_succ, Nat.add_right_comm, Nat.add_assoc]

/-- A relay routes what its server and the server next to it on the way to the exit need. -/
theorem getElem?_requests_succ (plan : Plan) (index : Nat) :
    plan.requests[index + 1]? =
      plan.servers[index]?.bind fun inner => plan.servers[index + 1]?.map fun server =>
        plan.request (.ofNat (index + 1)) (relayDevice (.ofNat (index + 1))) server
          (relayRanges server inner) := by
  unfold requests
  cases plan.servers with
  | nil => rfl
  | cons exit relays =>
    rw [List.getElem?_cons_succ, getElem?_relayRequests, List.getElem?_cons_succ, Nat.add_comm 1]

/-- Each request is that of the plan's server with the same number. -/
theorem exists_request_of_getElem? {plan : Plan} {index : Nat} {request : TunnelRequest}
    (h : plan.requests[index]? = some request) :
    ∃ server device ranges, plan.servers[index]? = some server ∧
      request = plan.request (.ofNat index) device server ranges := by
  cases index with
  | zero =>
    unfold requests at h
    cases hservers : plan.servers with
    | nil =>
      rw [hservers] at h
      cases h
    | cons exit relays =>
      rw [hservers, List.getElem?_cons_zero, Option.some.injEq] at h
      exact ⟨exit, _, _, rfl, h.symm⟩
  | succ index =>
    rw [getElem?_requests_succ, Option.bind_eq_some_iff] at h
    obtain ⟨inner, -, hmap⟩ := h
    obtain ⟨server, hserver, rfl⟩ := Option.map_eq_some_iff.mp hmap
    exact ⟨server, _, _, hserver, rfl⟩

end Plan

end TunnelChain
