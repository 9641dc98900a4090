import TunnelChain.Client.Stream

/-!
# The course of a session

All that can happen to a session, and what comes of a list of it. What holds of every course follows
from what each input keeps.
-/

namespace TunnelChain

namespace Transition

variable {τ : Type}

theorem append_assoc (first second third : Transition τ) :
    (first.append second).append third = first.append (second.append third) := by
  simp only [append, List.append_assoc]

theorem append_none (transition : Transition τ) : transition.append none = transition := by
  simp only [append, none, List.append_nil]

/-- Whether a transition neither sends nor answers anything. -/
structure IsSilent (transition : Transition τ) : Prop where
  outbound : transition.outbound = []
  replies : transition.replies = []

end Transition

namespace Session

/-- What its owner asks of a session, and what its connection brings it. -/
inductive Input (τ : Type) where
  | connect
  | fail
  | adopt (hops : Nat)
  | activate (plan : Plan)
  | deactivate (purpose : Purpose)
  | checkStatus
  | queryVersion
  | requestLogs (tag : τ)
  | clearLogs
  | handle (parcel : Parcel)

variable {τ : Type}

def step (session : Session τ) : Input τ → Transition τ × Session τ
  | .connect => session.connect
  | .fail => session.fail
  | .adopt hops => (.none, session.adopt hops)
  | .activate plan => session.activate plan
  | .deactivate purpose => session.deactivate purpose
  | .checkStatus => session.checkStatus
  | .queryVersion => session.queryVersion
  | .requestLogs tag => session.requestLogs tag
  | .clearLogs => session.clearLogs
  | .handle parcel => session.handle parcel

def run (session : Session τ) : List (Input τ) → Transition τ × Session τ
  | [] => (.none, session)
  | input :: rest =>
    let (first, next) := session.step input
    let (second, last) := next.run rest
    (first.append second, last)

theorem run_append (session : Session τ) (inputs more : List (Input τ)) :
    session.run (inputs ++ more) =
      ((session.run inputs).1.append ((session.run inputs).2.run more).1,
        ((session.run inputs).2.run more).2) := by
  induction inputs generalizing session with
  | nil => rfl
  | cons input rest ih =>
    simp only [List.cons_append, run, ih, Transition.append_assoc]

theorem run_concat (session : Session τ) (inputs : List (Input τ)) (input : Input τ) :
    session.run (inputs ++ [input]) =
      ((session.run inputs).1.append ((session.run inputs).2.step input).1,
        ((session.run inputs).2.step input).2) := by
  rw [run_append]
  simp only [run, Transition.append_none]

variable {session : Session τ}

theorem activate_refused {plan : Plan} (h : ¬ (session.phase = .ready ∧ plan.servers ≠ [])) :
    (session.activate plan).1.outbound = [] ∧ (session.activate plan).2 = session := by
  unfold activate
  by_cases hready : session.phase = .ready
  · rw [if_neg (not_not_intro hready)]
    cases hservers : plan.servers with
    | nil => exact ⟨rfl, rfl⟩
    | cons exit relays => exact absurd ⟨hready, hservers ▸ List.cons_ne_nil _ _⟩ h
  · rw [if_pos hready]
    exact ⟨rfl, rfl⟩

theorem activate_granted {plan : Plan} (hready : session.phase = .ready)
    (hservers : plan.servers ≠ []) :
    (session.activate plan).1.outbound = plan.messages ∧
      (session.activate plan).2 = { session with hopCount := plan.hopCount } := by
  have hempty : ¬ plan.servers.isEmpty = true := by
    rwa [List.isEmpty_iff]
  unfold activate
  rw [if_neg (not_not_intro hready), if_neg hempty]
  exact ⟨rfl, rfl⟩

theorem deactivate_refused {purpose : Purpose} (h : ¬ (session.phase = .ready ∧ purpose = .stop)) :
    (session.deactivate purpose).1.outbound = [] ∧ (session.deactivate purpose).2 = session := by
  unfold deactivate
  by_cases hready : session.phase = .ready
  · cases purpose with
    | stop => exact absurd ⟨hready, rfl⟩ h
    | switch =>
      rw [if_neg (not_not_intro hready)]
      exact ⟨rfl, rfl⟩
  · rw [if_pos hready]
    exact ⟨rfl, rfl⟩

theorem deactivate_stop (hready : session.phase = .ready) :
    (session.deactivate .stop).1.outbound =
        ((List.range session.hopCount).map UInt32.ofNat).map (fun hop => .deactivate (some hop)) ∧
      (session.deactivate .stop).2 = { session with hopCount := 0 } := by
  unfold deactivate
  rw [if_neg (not_not_intro hready), List.map_map]
  exact ⟨rfl, rfl⟩

theorem isSilent_takeStatus (body : Json) : (takeStatus body : Transition τ).IsSilent := by
  unfold takeStatus
  split <;> exact ⟨rfl, rfl⟩

theorem isSilent_takeHopEvent (kind : String) (event : SessionEvent) (body : Json) :
    (takeHopEvent kind event body : Transition τ).IsSilent := by
  unfold takeHopEvent
  split <;> exact ⟨rfl, rfl⟩

theorem isSilent_takeVersion (body : Json) : (takeVersion body : Transition τ).IsSilent := by
  unfold takeVersion
  split <;> exact ⟨rfl, rfl⟩

theorem handleReady_law (session : Session τ) (parcel : Parcel) :
    (session.handleReady parcel).1.outbound = [] ∧
      (session.handleReady parcel).2.phase = session.phase ∧
      (session.handleReady parcel).2.hopCount = session.hopCount := by
  unfold handleReady
  split
  · exact ⟨(isSilent_takeStatus _).outbound, rfl, rfl⟩
  · exact ⟨(isSilent_takeHopEvent _ _ _).outbound, rfl, rfl⟩
  · exact ⟨(isSilent_takeHopEvent _ _ _).outbound, rfl, rfl⟩
  · exact ⟨rfl, rfl, rfl⟩
  · exact ⟨rfl, rfl, rfl⟩
  · exact ⟨rfl, rfl, rfl⟩

/-- A session answers nothing that it hears, keeps count of its hops, and stays ready. -/
theorem handle_law (session : Session τ) (parcel : Parcel) :
    (session.handle parcel).1.outbound = [] ∧
      (session.handle parcel).2.hopCount = session.hopCount ∧
      (session.phase = .ready → (session.handle parcel).2.phase = .ready) := by
  unfold handle
  by_cases hversion : parcel.kind = "version"
  · rw [if_pos hversion]
    exact ⟨(isSilent_takeVersion _).outbound, rfl, id⟩
  rw [if_neg hversion]
  by_cases hreport : session.phase = .initializing ∧ parcel.kind = "status"
  · rw [if_pos hreport]
    exact ⟨rfl, rfl, fun _ => rfl⟩
  rw [if_neg hreport]
  by_cases hready : session.phase = .ready
  · rw [if_pos hready]
    obtain ⟨houtbound, hphase, hcount⟩ := session.handleReady_law parcel
    exact ⟨houtbound, hcount, fun _ => hphase.trans hready⟩
  · rw [if_neg hready]
    exact ⟨rfl, rfl, id⟩

/-- Whether an input leaves the hops alone, and the connection open. -/
def Input.IsAside : Input τ → Prop
  | .adopt _ | .fail | .activate _ | .deactivate _ => False
  | _ => True

/-- All else that happens to a session sends nothing about hops, keeps their count, and keeps it
ready. -/
theorem step_aside {input : Input τ} (h : input.IsAside) :
    (∀ message ∈ (session.step input).1.outbound,
        message ∈ [ClientMessage.status, .version, .logs, .cleanLogs]) ∧
      (session.step input).2.hopCount = session.hopCount ∧
      (session.phase = .ready → (session.step input).2.phase = .ready) := by
  cases input with
  | adopt hops => exact h.elim
  | fail => exact h.elim
  | activate plan => exact h.elim
  | deactivate purpose => exact h.elim
  | connect =>
    simp only [step, connect]
    by_cases hunknown : session.phase = .unknown
    · rw [if_pos hunknown]
      refine ⟨by simp [Transition.send, Transition.logging], rfl, fun hready => ?_⟩
      rw [hunknown] at hready
      cases hready
    · rw [if_neg hunknown]
      exact ⟨by simp [Transition.none, Transition.logging], rfl, id⟩
  | checkStatus =>
    refine ⟨?_, rfl, id⟩
    simp only [step, checkStatus]
    cases session.isTalking <;> simp [Transition.send, Transition.none]
  | queryVersion =>
    refine ⟨?_, rfl, id⟩
    simp only [step, queryVersion]
    cases session.isTalking <;> simp [Transition.send, Transition.none]
  | requestLogs tag =>
    simp only [step, requestLogs]
    by_cases hready : session.phase = .ready
    · rw [if_pos hready]
      exact ⟨by simp [Transition.send, Transition.withReplies], rfl, id⟩
    · rw [if_neg hready]
      exact ⟨by simp [Transition.none, Transition.withReplies], rfl, id⟩
  | clearLogs =>
    refine ⟨?_, rfl, id⟩
    simp only [step, clearLogs]
    by_cases hready : session.phase = .ready <;>
      simp [hready, Transition.send, Transition.none, Transition.withReplies]
  | handle parcel =>
    obtain ⟨houtbound, hcount, hready⟩ := session.handle_law parcel
    refine ⟨?_, hcount, hready⟩
    change ∀ message ∈ (session.handle parcel).1.outbound, _
    simp [houtbound]

end Session

end TunnelChain
