import Mathlib.Data.List.Induction
import TunnelChain.Proofs.Exchange
import TunnelChain.Proofs.Naming

/-!
# Operations

What can be asked of a controller, and how a property passes from single teardowns to the operations
that take several hops down, and from single steps to runs.
-/

namespace TunnelChain

/-- What can be asked of a controller; a tunnel is asked for by the body of a message. -/
inductive Operation where
  | activate (now : String) (body : Json)
  | deactivate (hop : HopIndex) (announce : Bool)
  | deactivateAll (announce : Bool)
  | checkLiveness

/-- An invariant that each step keeps exactly when it is a good one holds throughout a run if and
only if every step of the run is good. -/
theorem forall_prefix_iff {α β : Type} {step : β → α → β} {start : β} {run : List α}
    {P : β → Prop} {Q : β → α → Prop} (hstart : P start)
    (hstep : ∀ played last, played ++ [last] <+: run → P (played.foldl step start) →
      (P (step (played.foldl step start) last) ↔ Q (played.foldl step start) last)) :
    (∀ played, played <+: run → P (played.foldl step start)) ↔
      ∀ played last, played ++ [last] <+: run → Q (played.foldl step start) last := by
  have hlast (played : List α) (last : α) : (played ++ [last]).foldl step start =
      step (played.foldl step start) last := List.foldl_append
  constructor
  · intro hinv played last hplayed
    have hbefore := hinv played ((List.prefix_append _ _).trans hplayed)
    have hafter := hinv _ hplayed
    rw [hlast] at hafter
    exact (hstep played last hplayed hbefore).mp hafter
  · intro hgood played hplayed
    induction played using List.reverseRecOn with
    | nil => exact hstart
    | append_singleton played last ih =>
      rw [hlast]
      exact (hstep played last hplayed (ih ((List.prefix_append _ _).trans hplayed))).mpr
        (hgood played last hplayed)

/-- A plain request for a hop, as it is used in runs on fixed inputs. -/
def plainRequest (hop : HopIndex) (privateKey : String) : TunnelRequest where
  hop := some hop
  privateKey := privateKey
  deviceIpv4 := "10.0.0.2/32"
  deviceIpv6 := "fd00::2/128"
  gatewayIpv4 := "10.0.0.1"
  gatewayIpv6 := "fd00::1"
  publicKey := "BB=="
  serverIpv4 := "203.0.113.5"
  serverIpv6 := "2001:db8::5"
  port := 51820
  ipv6Enabled := false
  ranges := [⟨"0.0.0.0", 0, false⟩]

def plainBody (hop : HopIndex) (privateKey : String) : Json :=
  (ClientMessage.activate (plainRequest hop privateKey)).toJson

def plainTunnel (naming : Naming) (hop : HopIndex) (privateKey : String) : Tunnel :=
  (Tunnel.ofBody naming.name (plainBody hop privateKey)).toOption.getD default

namespace Controller

variable {σ : Type}

/-- Carries out an operation; a body that is refused asks for nothing. -/
def operate (engine : Engine σ) (naming : Naming) (controller : Controller σ) :
    Operation → Controller σ
  | .activate now body =>
    match Tunnel.ofBody naming.name body with
    | .ok tunnel => (activate engine now tunnel controller).2
    | .error _ => controller
  | .deactivate hop announce => (deactivate engine hop announce controller).2
  | .deactivateAll announce => deactivateAll engine announce controller
  | .checkLiveness => (checkLiveness engine controller).2

theorem operate_activate_ok {naming : Naming} {body : Json} {tunnel : Tunnel}
    (h : Tunnel.ofBody naming.name body = .ok tunnel) (engine : Engine σ)
    (controller : Controller σ) (now : String) :
    controller.operate engine naming (.activate now body) =
      (activate engine now tunnel controller).2 := by
  simp only [operate, h]

theorem operate_activate_error {naming : Naming} {body : Json} {error : TunnelError}
    (h : Tunnel.ofBody naming.name body = .error error) (engine : Engine σ)
    (controller : Controller σ) (now : String) :
    controller.operate engine naming (.activate now body) = controller := by
  simp only [operate, h]

variable {engine : Engine σ} {P : Controller σ → Prop}

theorem deactivateEach_induction {announce : Bool}
    (hnote : ∀ controller level text, P controller → P (controller.note level text))
    (hdeactivate : ∀ controller hop, P controller → P (deactivate engine hop announce controller).2)
    {controller : Controller σ} (h : P controller) (hops : List HopIndex) :
    P (deactivateEach engine announce controller hops) := by
  induction hops generalizing controller with
  | nil => exact h
  | cons hop rest ih =>
    have hstep := hdeactivate controller hop h
    unfold deactivateEach
    cases hresult : deactivate engine hop announce controller with
    | mk result next =>
      rw [hresult] at hstep
      cases result with
      | ok done => exact ih hstep
      | error error => exact ih (hnote _ _ _ hstep)

theorem checkLiveness_induction
    (hnote : ∀ controller level text, P controller → P (controller.note level text))
    (halarm : ∀ controller, P controller → P (controller.emit .backendFailure))
    (hdeactivate : ∀ controller hop, P controller → P (deactivate engine hop true controller).2)
    {controller : Controller σ} (h : P controller) : P (checkLiveness engine controller).2 := by
  unfold checkLiveness
  split
  · exact h
  · exact deactivateEach_induction hnote hdeactivate (halarm _ (hnote _ _ _ h)) _

theorem operate_induction {naming : Naming} {operation : Operation} {controller : Controller σ}
    (hnote : ∀ controller level text, P controller → P (controller.note level text))
    (halarm : ∀ controller, P controller → P (controller.emit .backendFailure))
    (hdeactivate : ∀ controller hop announce, P controller →
      P (deactivate engine hop announce controller).2)
    (h : P controller)
    (hactivate : ∀ now body tunnel, operation = .activate now body →
      Tunnel.ofBody naming.name body = .ok tunnel → P (activate engine now tunnel controller).2) :
    P (controller.operate engine naming operation) := by
  cases operation with
  | activate now body =>
    cases hbody : Tunnel.ofBody naming.name body with
    | ok tunnel =>
      rw [operate_activate_ok hbody]
      exact hactivate now body tunnel rfl hbody
    | error error =>
      rw [operate_activate_error hbody]
      exact h
  | deactivate hop announce => exact hdeactivate controller hop announce h
  | deactivateAll announce =>
    exact deactivateEach_induction hnote (fun before hop => hdeactivate before hop announce) h _
  | checkLiveness =>
    exact checkLiveness_induction hnote halarm (fun before hop => hdeactivate before hop true) h

end Controller

end TunnelChain
