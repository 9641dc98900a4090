import TunnelChain.Proofs.Memory
import TunnelChain.Proofs.Naming

/-!
# Where hops come from

Every hop that is in the chain after an operation was there before and its interface has not been
touched, or it is the hop operated on, which has been built or has been switched in place. That
operations spare the other hops rests on the names: no two hops share one.
-/

namespace TunnelChain

/-- Whether every hop that is up runs under the name that a naming gives it. -/
def Chain.Named (naming : Naming) (chain : Chain) : Prop :=
  ∀ hop active, chain.get? hop = some active → active.tunnel.name = naming.name hop

variable {naming : Naming} {chain next : Chain} {xs : List Exchange} {said : List HopEvent}
  {result : Except OperationError Unit} {now : String} {tunnel : Tunnel} {switching : Bool}

theorem interfaceAfter_other {hop other target : HopIndex} (hne : other ≠ hop)
    (hxs : ∀ x ∈ xs, x.Concerns (naming.name hop) target) (interface : Option Interface) :
    interfaceAfter (naming.name other) xs interface = interface :=
  interfaceAfter_of_minds (fun heq => hne (naming.name_injective heq).symm)
    (fun x hx => (hxs x hx).minds) interface

theorem interfaceAfter_restoring (name : String) (hop : HopIndex) (interface : Option Interface) :
    interfaceAfter name (granted (restoring hop)) interface = interface := by
  unfold restoring
  split
  · simp [interfaceAfter_granted_cons, Call.onInterface]
  · rfl

namespace Teardown

variable {hop other : HopIndex} {announce : Bool} {active : ActiveHop}

theorem get?_other (h : Teardown hop announce chain result xs next said) (hne : other ≠ hop) :
    next.get? other = chain.get? other := by
  cases hgone : isGone result with
  | true => rw [(h.of_isGone hgone).1, Table.get?_erase, if_neg hne]
  | false => rw [(h.of_not_isGone hgone).1]

theorem concerns_name (h : Teardown hop announce chain result xs next said)
    (hnamed : chain.Named naming) : ∀ x ∈ xs, x.Concerns (naming.name hop) hop := by
  cases hup : chain.get? hop with
  | none => simp [h.exchanges_of_none hup]
  | some active =>
    rw [← hnamed hop active hup]
    exact h.concerns hup

/-- A teardown leaves a hop in the chain only with what the hop had before. -/
theorem kept (h : Teardown hop announce chain result xs next said) (hnamed : chain.Named naming)
    (hactive : next.get? other = some active) :
    chain.get? other = some active ∧
      ∀ interface, interfaceAfter (naming.name other) xs interface = interface := by
  by_cases hother : other = hop
  · subst hother
    cases h with
    | inactive hdown => exact ⟨hactive, fun _ => rfl⟩
    | unrestored hup hexit => exact ⟨hactive, fun _ => rfl⟩
    | undeleted hup =>
      refine ⟨hactive, fun interface => ?_⟩
      rw [interfaceAfter_append, interfaceAfter_restoring]
      rfl
    | vanished hup => simp [Table.get?_erase] at hactive
    | removed hup => simp [Table.get?_erase] at hactive
  · rw [h.get?_other hother] at hactive
    exact ⟨hactive, interfaceAfter_other hother (h.concerns_name hnamed)⟩

theorem named (h : Teardown hop announce chain result xs next said) (hnamed : chain.Named naming) :
    next.Named naming :=
  fun other active hactive => hnamed other active (h.kept hnamed hactive).1

end Teardown

/-- The ways in which a hop can be in the chain after the activation of a tunnel. -/
inductive Origin (naming : Naming) (switching : Bool) (now : String) (tunnel : Tunnel)
    (chain : Chain) (result : Except OperationError Unit) (xs : List Exchange) (hop : HopIndex) :
    ActiveHop → Prop where
  | kept {active : ActiveHop} (hbefore : chain.get? hop = some active)
      (hinterface : ∀ interface, interfaceAfter (naming.name hop) xs interface = interface) :
      Origin naming switching now tunnel chain result xs hop active
  | built (hhop : hop = tunnel.hop) (hname : Utf8.size tunnel.name ≤ Naming.maxBytes)
      (hinterface : ∀ interface,
        interfaceAfter (naming.name hop) xs interface = some tunnel.interface) :
      Origin naming switching now tunnel chain result xs hop ⟨tunnel, now⟩
  | switched {current : ActiveHop} (hhop : hop = tunnel.hop)
      (hname : Utf8.size tunnel.name ≤ Naming.maxBytes) (hup : chain.get? hop = some current)
      (hswitch : (tunnel.canReplace current.tunnel && switching) = true) (hresult : result = .ok ())
      (hinterface : ∀ interface, interfaceAfter (naming.name hop) xs interface =
        interface.map ({ · with peer := some tunnel.publicKey })) :
      Origin naming switching now tunnel chain result xs hop ⟨tunnel, now⟩

theorem Building.get?_other {other : HopIndex} (h : Building now tunnel chain result xs next said)
    (hne : other ≠ tunnel.hop) : next.get? other = chain.get? other := by
  cases h with
  | uncleared hclear => rfl
  | failed hclear hscript => rfl
  | built hclear => rw [Chain.put, Table.get?_insert, if_neg hne]

theorem Building.origin {hop : HopIndex} {active : ActiveHop}
    (h : Building now tunnel chain result xs next said) (switching : Bool)
    (hname : tunnel.name = naming.name tunnel.hop)
    (hshort : Utf8.size tunnel.name ≤ Naming.maxBytes) (hdown : chain.get? tunnel.hop = none)
    (hactive : next.get? hop = some active) :
    Origin naming switching now tunnel chain result xs hop active := by
  have hconcerns := h.concerns
  rw [hname] at hconcerns
  by_cases hhop : hop = tunnel.hop
  · subst hhop
    cases h with
    | uncleared hclear => cases hdown.symm.trans hactive
    | failed hclear hscript => cases hdown.symm.trans hactive
    | built hclear =>
      rw [Chain.put, Table.get?_insert, if_pos rfl] at hactive
      cases hactive
      refine .built rfl hshort fun interface => ?_
      rw [← hname, interfaceAfter_append]
      exact interfaceAfter_buildScript tunnel _
  · rw [h.get?_other hhop] at hactive
    exact .kept hactive (interfaceAfter_other hhop hconcerns)

namespace Activation

variable {hop other : HopIndex} {active : ActiveHop}

theorem get?_other (h : Activation switching now tunnel chain result xs next said)
    (hne : other ≠ tunnel.hop) : next.get? other = chain.get? other := by
  cases h with
  | overlong _ => rfl
  | fresh _ _ hbuild => exact hbuild.get?_other hne
  | switched _ _ _ => rw [Chain.put, Table.get?_insert, if_neg hne]
  | unswitched _ _ _ => rfl
  | kept _ _ _ _ _ => rfl
  | rebuilt _ _ _ _ _ hbuild => rw [hbuild.get?_other hne, Table.get?_erase, if_neg hne]

theorem concerns (h : Activation switching now tunnel chain result xs next said)
    (hname : tunnel.name = naming.name tunnel.hop) (hnamed : chain.Named naming) :
    ∀ x ∈ xs, x.Concerns (naming.name tunnel.hop) tunnel.hop := by
  have hconfigure : (Call.configureInterface tunnel).Concerns (naming.name tunnel.hop) tunnel.hop :=
    Call.concerns_of_not_isDns _ (congrArg some hname) rfl
  cases h with
  | overlong _ => simp
  | fresh _ _ hbuild =>
    rw [← hname]
    exact hbuild.concerns
  | switched _ _ _ => exact List.forall_mem_singleton.mpr hconfigure
  | unswitched _ _ _ => exact List.forall_mem_singleton.mpr hconfigure
  | kept _ _ _ hteardown _ => exact hteardown.concerns_name hnamed
  | rebuilt _ _ _ hteardown _ hbuild =>
    refine List.forall_mem_append.mpr ⟨hteardown.concerns_name hnamed, ?_⟩
    rw [← hname]
    exact hbuild.concerns

/-- Where a hop comes from that is in the chain after an activation. -/
theorem origin (h : Activation switching now tunnel chain result xs next said)
    (hname : tunnel.name = naming.name tunnel.hop) (hnamed : chain.Named naming)
    (hactive : next.get? hop = some active) :
    Origin naming switching now tunnel chain result xs hop active := by
  have hconcerns := h.concerns hname hnamed
  cases h with
  | overlong _ => exact .kept hactive fun _ => rfl
  | fresh hshort hdown hbuild => exact hbuild.origin switching hname hshort hdown hactive
  | unswitched _ _ _ => exact .kept hactive fun _ => rfl
  | kept _ _ _ hteardown _ =>
    exact .kept hactive (hteardown.kept hnamed hactive).2
  | @switched current hshort hup hswitch =>
    by_cases hhop : hop = tunnel.hop
    · subst hhop
      rw [Chain.put, Table.get?_insert, if_pos rfl] at hactive
      cases hactive
      refine .switched rfl hshort hup hswitch rfl fun interface => ?_
      rw [← hname]
      simp [interfaceAfter, Exchange.onInterface, Call.interface?, Call.onInterface]
    · rw [Chain.put, Table.get?_insert, if_neg hhop] at hactive
      exact .kept hactive (interfaceAfter_other hhop hconcerns)
  | rebuilt hshort _ _ hteardown _ hbuild =>
    cases hbuild.origin switching hname hshort (by simp [Table.get?_erase]) hactive with
    | kept hbefore hinterface =>
      obtain ⟨hbefore', hinterface'⟩ := hteardown.kept hnamed hbefore
      refine .kept hbefore' fun interface => ?_
      rw [interfaceAfter_append, hinterface', hinterface]
    | built hhop hshort hinterface =>
      refine .built hhop hshort fun interface => ?_
      rw [interfaceAfter_append, hinterface]
    | switched hhop _ hup _ _ _ =>
      subst hhop
      simp [Table.get?_erase] at hup

theorem named (h : Activation switching now tunnel chain result xs next said)
    (hname : tunnel.name = naming.name tunnel.hop) (hnamed : chain.Named naming) :
    next.Named naming := by
  intro hop active hactive
  cases h.origin hname hnamed hactive with
  | kept hbefore _ => exact hnamed hop active hbefore
  | built hhop _ _ => rw [hhop, hname]
  | switched hhop _ _ _ _ _ => rw [hhop, hname]

end Activation

end TunnelChain
