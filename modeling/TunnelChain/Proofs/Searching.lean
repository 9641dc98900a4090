import TunnelChain.Endpoint.Search

/-!
# How a search ends

A search is over with the first lookup that gives an address or a failure that is final, if the
retries go so far. Otherwise it gives up after the last retry, for the reason that the last lookup
had.
-/

namespace TunnelChain

/-! ## Lookups -/

namespace Lookup

variable {lookup : Lookup} {host : String}

/-- Whether a lookup leaves nothing to try again for. -/
def IsDecisive : Lookup → Prop
  | .found endpoints => endpoints ≠ []
  | .transient _ => False
  | .permanent _ => True

instance : DecidablePred IsDecisive
  | .found endpoints => inferInstanceAs (Decidable (endpoints ≠ []))
  | .transient _ => inferInstanceAs (Decidable False)
  | .permanent _ => inferInstanceAs (Decidable True)

/-- What a decisive lookup comes to: the first address that it gives, or its reason. -/
inductive Decides (host : String) : Lookup → Except ResolveError Endpoint → Prop where
  | found (endpoint : Endpoint) (others : List Endpoint) :
      Decides host (.found (endpoint :: others)) (.ok endpoint)
  | permanent (reason : String) : Decides host (.permanent reason) (.error (.permanent host reason))

/-- The reason for which a lookup is tried again. -/
inductive Leaves : Lookup → String → Prop where
  | empty : Leaves (.found []) "no addresses returned"
  | transient (reason : String) : Leaves (.transient reason) reason

theorem exists_leaves (h : ¬ lookup.IsDecisive) : ∃ reason, lookup.Leaves reason := by
  cases lookup with
  | found endpoints =>
    obtain rfl : endpoints = [] := Decidable.not_not.mp h
    exact ⟨_, .empty⟩
  | transient reason => exact ⟨reason, .transient reason⟩
  | permanent reason => exact absurd trivial h

end Lookup

/-! ## Searches -/

namespace Search

variable {host : String} {port : UInt16} {policy : RetryPolicy} {lookup : Nat → Lookup} {k : Nat}

section Look

variable (host : String) (port : UInt16) {found : Lookup} (again : String → Search)

theorem look_of_isDecisive (h : found.IsDecisive) :
    found.Decides host (look host port found again).result ∧
      (look host port found again).acts = [.look host port] := by
  cases found with
  | found endpoints =>
    cases endpoints with
    | nil => exact absurd rfl h
    | cons endpoint others => exact ⟨.found endpoint others, rfl⟩
  | transient reason => cases h
  | permanent reason => exact ⟨.permanent reason, rfl⟩

theorem look_of_leaves {reason : String} (h : found.Leaves reason) :
    (look host port found again).result = (again reason).result ∧
      (look host port found again).acts = .look host port :: (again reason).acts := by
  cases h with
  | empty => exact ⟨rfl, rfl⟩
  | transient reason => exact ⟨rfl, rfl⟩

end Look

section Retries

variable (host : String) (port : UInt16) (policy : RetryPolicy)

/-- The lookups that are tried again, so many from this one on, and the waits after each. -/
def retries (retry count : Nat) : List Act :=
  (List.range' retry count).flatMap fun n => [.look host port, .wait (policy.delay n)]

/-- As long as no lookup is decisive and retries are left, a search goes on to the next one. -/
theorem attempt_add {retry : Nat} (remaining : Nat)
    (h : ∀ n, retry ≤ n → n < retry + k → ¬ (lookup n).IsDecisive) :
    (attempt host port policy lookup retry (remaining + k)).result =
        (attempt host port policy lookup (retry + k) remaining).result ∧
      (attempt host port policy lookup retry (remaining + k)).acts =
        retries host port policy retry k ++
          (attempt host port policy lookup (retry + k) remaining).acts := by
  induction k generalizing retry with
  | zero => exact ⟨rfl, rfl⟩
  | succ k ih =>
    obtain ⟨reason, hreason⟩ := Lookup.exists_leaves (h retry (Nat.le_refl _) (by omega))
    have hlater : ∀ n, retry + 1 ≤ n → n < retry + 1 + k → ¬ (lookup n).IsDecisive :=
      fun n hlow hhigh => h n (by omega) (by omega)
    obtain ⟨hresult, hacts⟩ := ih hlater
    have hlook := look_of_leaves host port
      (fun reason => waitAndRetry host reason (policy.delay retry)
        (attempt host port policy lookup (retry + 1) (remaining + k))) hreason
    rw [← Nat.add_assoc, attempt, hlook.1, hlook.2]
    have hnext : retry + (k + 1) = retry + 1 + k := by omega
    rw [hnext, retries, List.range'_succ, List.flatMap_cons]
    exact ⟨hresult,
      congrArg (fun acts => .look host port :: .wait (policy.delay retry) :: acts) hacts⟩

theorem attempt_of_le {total : Nat} (hk : k ≤ total) (h : ∀ n < k, ¬ (lookup n).IsDecisive) :
    (attempt host port policy lookup 0 total).result =
        (attempt host port policy lookup k (total - k)).result ∧
      (attempt host port policy lookup 0 total).acts =
        retries host port policy 0 k ++ (attempt host port policy lookup k (total - k)).acts := by
  have hearlier : ∀ n, 0 ≤ n → n < 0 + k → ¬ (lookup n).IsDecisive := fun n _ hn => h n (by omega)
  have hadd := attempt_add host port policy (total - k) hearlier
  rwa [Nat.sub_add_cancel hk, Nat.zero_add] at hadd

end Retries

/-- Whether a search looks up one host with so many retries, and waits as the policy says between
each two lookups. -/
structure Makes (search : Search) (host : String) (port : UInt16) (policy : RetryPolicy)
    (count : Nat) : Prop where
  acts : search.acts =
    ((List.range count).flatMap fun retry => [.look host port, .wait (policy.delay retry)]) ++
      [.look host port]
  lookups : search.lookups = count + 1
  sleeps : search.sleeps = (List.range count).map policy.delay

theorem makes_of_acts {search : Search}
    (h : search.acts = retries host port policy 0 k ++ [.look host port]) :
    search.Makes host port policy k := by
  rw [retries, ← List.range_eq_range'] at h
  refine ⟨h, ?_, ?_⟩
  · have hone (retry : Nat) :
        [Act.look host port, .wait (policy.delay retry)].countP Act.isLook = 1 := rfl
    rw [lookups, h, List.countP_append, List.countP_flatMap]
    simp [Function.comp_def, hone, Act.isLook, List.map_const']
  · have hone (retry : Nat) :
        [Act.look host port, .wait (policy.delay retry)].filterMap Act.delay? =
          [policy.delay retry] := rfl
    rw [sleeps, h, List.filterMap_append, List.filterMap_flatMap, List.map_eq_flatMap]
    simp [hone, Act.delay?]

/-- **How a search ends.** A literal address is taken as it is. Any other host is looked up until a
lookup is decisive, which gives the result; where none is within the retries, the search is
exhausted with the last one. The delays are those of the policy in turn. -/
theorem resolve_decided (host : String) (port : UInt16) {policy : RetryPolicy}
    (lookup : Nat → Lookup) (hbudget : policy.maxRetries < 0xFFFFFFFF) :
    let search := resolve host port policy lookup
    (∀ ip, Ip.parse? host = some ip → search.result = .ok ⟨ip, port⟩ ∧ search.acts = []) ∧
    (Ip.parse? host = none →
      (∀ k ≤ policy.maxRetries.toNat, (lookup k).IsDecisive → (∀ n < k, ¬ (lookup n).IsDecisive) →
        (lookup k).Decides host search.result ∧ search.Makes host port policy k) ∧
      ((∀ n ≤ policy.maxRetries.toNat, ¬ (lookup n).IsDecisive) →
        (∃ reason, (lookup policy.maxRetries.toNat).Leaves reason ∧
          search.result = .error (.exhausted host (policy.maxRetries + 1).toNat reason)) ∧
        search.Makes host port policy policy.maxRetries.toNat)) := by
  intro search
  refine ⟨fun ip hip => ?_, fun hname => ?_⟩
  · have hliteral : search = ⟨.ok ⟨ip, port⟩, [], []⟩ := resolve_literal hip port policy lookup
    rw [hliteral]
    exact ⟨rfl, rfl⟩
  have hsearch : search = attempt host port policy lookup 0 policy.maxRetries.toNat := by
    change resolve host port policy lookup = _
    rw [resolve, hname]
  refine ⟨fun k hk hdecisive hfirst => ?_, fun hnone => ?_⟩
  · obtain ⟨hresult, hacts⟩ := attempt_of_le host port policy hk hfirst
    have hlook : (lookup k).Decides host
          (attempt host port policy lookup k (policy.maxRetries.toNat - k)).result ∧
        (attempt host port policy lookup k (policy.maxRetries.toNat - k)).acts =
          [.look host port] := by
      cases policy.maxRetries.toNat - k <;> exact look_of_isDecisive host port _ hdecisive
    rw [hsearch, hresult]
    exact ⟨hlook.1, makes_of_acts (hlook.2 ▸ hacts)⟩
  · obtain ⟨hresult, hacts⟩ := attempt_of_le host port policy (Nat.le_refl _)
      fun n hn => hnone n (Nat.le_of_lt hn)
    obtain ⟨reason, hreason⟩ := Lookup.exists_leaves (hnone _ (Nat.le_refl _))
    have hlook := look_of_leaves host port (giveUp host (policy.maxRetries.toNat + 1)) hreason
    have hattempts : (policy.maxRetries + 1).toNat = policy.maxRetries.toNat + 1 := by
      have hbelow : policy.maxRetries.toNat < 0xFFFFFFFF := UInt32.lt_iff_toNat_lt.mp hbudget
      rw [UInt32.toNat_add]
      exact Nat.mod_eq_of_lt (Nat.succ_lt_succ hbelow)
    rw [Nat.sub_self, attempt] at hresult hacts
    rw [hlook.2] at hacts
    rw [hsearch, hresult, hlook.1, hattempts]
    exact ⟨⟨reason, hreason, rfl⟩, makes_of_acts hacts⟩

/-- The first two lookups of this host are in vain, the second because it gives no address. -/
def thirdTime : Nat → Lookup
  | 0 => .transient "try again"
  | 1 => .found []
  | _ => .found [⟨.v4 0xCB007105#32, 51820⟩]

theorem resolve_decided_thirdTime :
    RetryPolicy.standard.maxRetries < 0xFFFFFFFF ∧
      (resolve "vpn.example" 51820 .standard thirdTime).result = .ok ⟨.v4 0xCB007105#32, 51820⟩ ∧
      (resolve "vpn.example" 51820 .standard thirdTime).Makes "vpn.example" 51820 .standard 2 := by
  have hbudget : RetryPolicy.standard.maxRetries < 0xFFFFFFFF := by decide
  have hname : Ip.parse? "vpn.example" = none := by decide +kernel
  have hthird : (thirdTime 2).IsDecisive := by decide
  have hfirst : ∀ n < 2, ¬ (thirdTime n).IsDecisive := by decide
  obtain ⟨hdecides, hmakes⟩ :=
    ((resolve_decided "vpn.example" 51820 thirdTime hbudget).2 hname).1 2 (by decide) hthird hfirst
  cases hdecides with
  | found endpoint others => exact ⟨hbudget, rfl, hmakes⟩

end Search

end TunnelChain
