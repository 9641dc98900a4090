import TunnelChain.Proofs.Operation
import TunnelChain.Proofs.Provenance
import TunnelChain.Proofs.Transcript

/-!
# Hops are isolated

What is asked of a controller about one hop stays with that hop, whichever of its calls fail: only
its own interface is named, name servers are touched for the exit hop alone, and the other hops stay
as they are, in the chain and in the system.
-/

namespace TunnelChain

/-- What can be asked of a controller about one hop. -/
inductive Order where
  | activate (now : String) (tunnel : Tunnel)
  | deactivate (hop : HopIndex) (announce : Bool)

namespace Order

def hop : Order → HopIndex
  | .activate _ tunnel => tunnel.hop
  | .deactivate hop _ => hop

/-- Whether a tunnel that is asked for has the name that a naming gives its hop. -/
def Named (naming : Naming) : Order → Prop
  | .activate _ tunnel => tunnel.name = naming.name tunnel.hop
  | .deactivate _ _ => True

end Order

namespace Controller

variable {σ : Type}

def obey (engine : Engine σ) (controller : Controller σ) :
    Order → Except OperationError Unit × Controller σ
  | .activate now tunnel => activate engine now tunnel controller
  | .deactivate hop announce => deactivate engine hop announce controller

variable {naming : Naming} {order : Order}

theorem obey_law (engine : Engine σ) (controller : Controller σ) (horder : order.Named naming)
    (hnamed : controller.chain.Named naming) :
    ∃ xs said,
      Turns engine controller xs (obey engine controller order).2.chain said
        (obey engine controller order).2 ∧
      (obey engine controller order).2.chain.Named naming ∧
      (∀ x ∈ xs, x.Concerns (naming.name order.hop) order.hop) ∧
      ∀ other, other ≠ order.hop →
        (obey engine controller order).2.chain.get? other = controller.chain.get? other := by
  cases order with
  | activate now tunnel =>
    obtain ⟨xs, next, said, hactivation, hturns⟩ := activate_law engine now tunnel controller
    have hchain := hturns.chain
    subst hchain
    exact ⟨xs, said, hturns, hactivation.named horder hnamed, hactivation.concerns horder hnamed,
      fun other hne => hactivation.get?_other hne⟩
  | deactivate hop announce =>
    obtain ⟨xs, next, said, hteardown, hturns⟩ := deactivate_law engine hop announce controller
    have hchain := hturns.chain
    subst hchain
    exact ⟨xs, said, hturns, hteardown.named hnamed, hteardown.concerns_name hnamed,
      fun other hne => hteardown.get?_other hne⟩

/-- **Hops are isolated.** Whatever fails, all that is asked of the system on behalf of a hop
concerns this hop, and the other hops stay in the chain, or out of it, as they were. So in memory
the interfaces of the other hops stay as they are, and the name servers do unless it is the exit
hop. -/
theorem obey_isolated (horder : order.Named naming) :
    (∀ (σ : Type) (engine : Engine σ) (controller : Controller (Transcript σ)),
      controller.chain.Named naming →
      (∃ xs, (obey engine.transcribed controller order).2.system.exchanges =
          controller.system.exchanges ++ xs ∧
        ∀ x ∈ xs, x.Concerns (naming.name order.hop) order.hop) ∧
      (obey engine.transcribed controller order).2.system.readings = controller.system.readings ∧
      ∀ other, other ≠ order.hop →
        (obey engine.transcribed controller order).2.chain.get? other =
          controller.chain.get? other) ∧
    ∀ controller : Controller Memory, controller.chain.Named naming →
      (∀ other, other ≠ order.hop →
        (obey Memory.engine controller order).2.chain.get? other = controller.chain.get? other ∧
        (obey Memory.engine controller order).2.system.interfaces.get? (naming.name other) =
          controller.system.interfaces.get? (naming.name other)) ∧
      (order.hop ≠ 0 →
        (obey Memory.engine controller order).2.system.resolvers =
          controller.system.resolvers) := by
  refine ⟨fun σ engine controller hnamed => ?_, fun controller hnamed => ?_⟩
  · obtain ⟨xs, said, hturns, -, hconcerns, hothers⟩ :=
      obey_law engine.transcribed controller horder hnamed
    obtain ⟨-, hexchanges, hreadings⟩ := hturns.runs.of_transcribed
    exact ⟨⟨xs, hexchanges, hconcerns⟩, hreadings, hothers⟩
  · obtain ⟨xs, said, hturns, -, hconcerns, hothers⟩ :=
      obey_law Memory.engine controller horder hnamed
    refine ⟨fun other hne => ⟨hothers other hne, ?_⟩, fun hrelay => ?_⟩
    · rw [Memory.get?_of_runs hturns.runs]
      exact interfaceAfter_other hne hconcerns _
    · rw [Memory.resolvers_of_runs hturns.runs]
      exact resolversAfter_of_concerns _ hrelay hconcerns

theorem named_operate {engine : Engine σ} {controller : Controller σ}
    (h : controller.chain.Named naming) (operation : Operation) :
    (controller.operate engine naming operation).chain.Named naming := by
  refine operate_induction (P := fun controller => controller.chain.Named naming)
    (fun _ _ _ h => h) (fun _ h => h) ?_ h ?_
  · intro before hop announce hbefore
    have horder : (Order.deactivate hop announce).Named naming := trivial
    obtain ⟨-, -, -, hnamed, -⟩ := obey_law engine before horder hbefore
    exact hnamed
  · intro now body tunnel _ hbody
    have horder : (Order.activate now tunnel).Named naming := Tunnel.name_of_ofBody hbody
    obtain ⟨-, -, -, hnamed, -⟩ := obey_law engine controller horder h
    exact hnamed

/-- The exit hop and a relay are up when adding routes begins to fail. -/
def beforeFailure : Controller Memory :=
  let exit := (obey Memory.engine (fresh Memory.fresh)
    (.activate "then" (plainTunnel ⟨"hl"⟩ 0 "AA=="))).2
  let both := (obey Memory.engine exit (.activate "then" (plainTunnel ⟨"hl"⟩ 2 "AA=="))).2
  { both with system := both.system.happen (.failOn .addRoutePrefix) }

/-- A new key for the relay, which is lost half way through its rebuild. -/
def losingOrder : Order :=
  .activate "now" (plainTunnel ⟨"hl"⟩ 2 "ZZ==")

theorem named_beforeFailure : beforeFailure.chain.Named ⟨"hl"⟩ := by
  have hfresh : (fresh Memory.fresh).chain.Named ⟨"hl"⟩ := fun _ _ hactive => by cases hactive
  have hplain (hop : HopIndex) (hhop : (plainTunnel ⟨"hl"⟩ hop "AA==").name =
      Naming.name ⟨"hl"⟩ (plainTunnel ⟨"hl"⟩ hop "AA==").hop) :
      (Order.activate "then" (plainTunnel ⟨"hl"⟩ hop "AA==")).Named ⟨"hl"⟩ := hhop
  obtain ⟨-, -, -, hexit, -⟩ := obey_law Memory.engine _ (hplain 0 (by decide +kernel)) hfresh
  obtain ⟨-, -, -, hboth, -⟩ := obey_law Memory.engine _ (hplain 2 (by decide +kernel)) hexit
  exact hboth

theorem obey_isolated_losingOrder :
    beforeFailure.chain.keys = [0, 2] ∧
      (obey Memory.engine beforeFailure losingOrder).1.isOk = false ∧
      (obey Memory.engine beforeFailure losingOrder).2.chain.keys = [0] ∧
      (∃ xs, (obey Memory.engine.transcribed
          { beforeFailure with system := .blank beforeFailure.system }
            losingOrder).2.system.exchanges
            = [] ++ xs ∧ ∀ x ∈ xs, x.Concerns "hlhop2" 2) ∧
      (obey Memory.engine beforeFailure losingOrder).2.system.interfaces.get? "hl" =
        beforeFailure.system.interfaces.get? "hl" ∧
      (obey Memory.engine beforeFailure losingOrder).2.system.resolvers =
        beforeFailure.system.resolvers := by
  have horder : losingOrder.Named ⟨"hl"⟩ := by
    change (plainTunnel ⟨"hl"⟩ 2 "ZZ==").name = Naming.name ⟨"hl"⟩ (plainTunnel ⟨"hl"⟩ 2 "ZZ==").hop
    decide +kernel
  have hhop : losingOrder.hop = 2 := by decide +kernel
  have hname : Naming.name ⟨"hl"⟩ 2 = "hlhop2" := by decide +kernel
  obtain ⟨hasked, hmemory⟩ := obey_isolated horder
  obtain ⟨hexchanges, -, -⟩ := hasked Memory Memory.engine
    { beforeFailure with system := .blank beforeFailure.system } named_beforeFailure
  obtain ⟨hothers, hresolvers⟩ := hmemory beforeFailure named_beforeFailure
  rw [hhop] at hexchanges hothers hresolvers
  rw [hname] at hexchanges
  exact ⟨by decide +kernel, by decide +kernel, by decide +kernel, hexchanges,
    (hothers 0 (by decide)).2, hresolvers (by decide)⟩

end Controller

end TunnelChain
