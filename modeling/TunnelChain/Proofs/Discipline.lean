import Mathlib.Data.List.Induction
import TunnelChain.Proofs.LogRequest

/-!
# The discipline of a session

A session only moves forward: it is connected, becomes ready by the first report, and ends when the
transport fails. How far it is decides what it may send, and what it surfaces.
-/

namespace TunnelChain

namespace Phase

/-- The ways forward. -/
inductive Advances : Phase → Phase → Prop where
  | connected : Advances .unknown .initializing
  | reported : Advances .initializing .ready
  | lost (phase : Phase) : Advances phase .disconnected

/-- Whether a session that is this far may send a message. -/
def permits : Phase → ClientMessage → Bool
  | .ready, _ => true
  | .initializing, .status => true
  | .initializing, .version => true
  | _, _ => false

/-- What is surfaced when the transport fails. -/
def lossEvents : Phase → List SessionEvent
  | .initializing => [.initialized false false none, .controllerError, .disconnected]
  | _ => [.controllerError, .disconnected]

theorem one_lt_length_lossEvents (phase : Phase) : 1 < phase.lossEvents.length := by
  cases phase <;> decide

end Phase

namespace SessionEvent

def isInitialized : SessionEvent → Bool
  | .initialized .. => true
  | _ => false

/-- Whether an event tells how the exit hop fares. -/
def isTidings : SessionEvent → Bool
  | .connected => true
  | .statusUpdated .. => true
  | _ => false

end SessionEvent

variable {τ : Type}

namespace Session

/-! ## What a step can do -/

/-- The ways in which a step can go: the phase before it, the input, what is sent and surfaced, and
the phase after it. -/
inductive Conduct (phase : Phase) :
    Input τ → List ClientMessage → List SessionEvent → Phase → Prop where
  | idle {input : Input τ} (hinput : input = .fail → phase = .disconnected) :
      Conduct phase input [] [] phase
  | connected (hphase : phase = .unknown) : Conduct phase .connect [.status] [] .initializing
  | reported (parcel : Parcel) (connected : Bool) (since : Option Instant)
      (hphase : phase = .initializing) :
      Conduct phase (.handle parcel) [] [.initialized true connected since] .ready
  | lost (hphase : phase ≠ .disconnected) : Conduct phase .fail [] phase.lossEvents .disconnected
  | asked {input : Input τ} {messages : List ClientMessage} (hinput : input ≠ .fail)
      (hpermits : ∀ message ∈ messages, phase.permits message = true) :
      Conduct phase input messages [] phase
  | refused {input : Input τ} (hinput : input ≠ .fail) :
      Conduct phase input [] [.disconnected] phase
  | versioned (parcel : Parcel) (number : UInt32) :
      Conduct phase (.handle parcel) [] [.version number] phase
  | told (parcel : Parcel) {event : SessionEvent} (hphase : phase = .ready)
      (hevent : event.isInitialized = false) : Conduct phase (.handle parcel) [] [event] phase

variable {session : Session τ}

/-- Whether a step has gone one of these ways. -/
def Behaves (session : Session τ) (input : Input τ) (result : Transition τ × Session τ) : Prop :=
  Conduct session.phase input result.1.outbound result.1.events result.2.phase

theorem permits_of_ready (h : session.phase = .ready) (message : ClientMessage) :
    session.phase.permits message = true := by
  rw [h]
  rfl

theorem behaves_connect (session : Session τ) : session.Behaves .connect session.connect := by
  unfold connect
  by_cases hunknown : session.phase = .unknown
  · rw [if_pos hunknown]
    exact .connected hunknown
  · rw [if_neg hunknown]
    exact .idle nofun

theorem behaves_fail (session : Session τ) : session.Behaves .fail session.fail := by
  unfold Behaves fail
  cases hphase : session.phase with
  | disconnected =>
    change Conduct _ _ _ _ session.phase
    rw [hphase]
    exact .idle fun _ => rfl
  | initializing => exact .lost nofun
  | unknown => exact .lost nofun
  | ready => exact .lost nofun

theorem behaves_activate (session : Session τ) (plan : Plan) :
    session.Behaves (.activate plan) (session.activate plan) := by
  unfold activate
  by_cases hready : session.phase = .ready
  · rw [if_neg (not_not_intro hready)]
    split
    · exact .refused nofun
    · exact .asked nofun fun message _ => permits_of_ready hready message
  · rw [if_pos hready]
    exact .refused nofun

theorem behaves_deactivate (session : Session τ) (purpose : Purpose) :
    session.Behaves (.deactivate purpose) (session.deactivate purpose) := by
  unfold deactivate
  by_cases hready : session.phase = .ready
  · rw [if_neg (not_not_intro hready)]
    split
    · exact .refused nofun
    · exact .asked nofun fun message _ => permits_of_ready hready message
  · rw [if_pos hready]
    exact .refused nofun

theorem permits_of_isTalking (h : session.isTalking = true) {message : ClientMessage}
    (hmessage : message = .status ∨ message = .version) :
    ∀ asked ∈ [message], session.phase.permits asked = true := by
  rw [List.forall_mem_singleton]
  simp only [isTalking, Bool.or_eq_true, decide_eq_true_eq] at h
  obtain hphase | hphase := h <;> rw [hphase] <;> obtain rfl | rfl := hmessage <;> rfl

theorem behaves_checkStatus (session : Session τ) :
    session.Behaves .checkStatus session.checkStatus := by
  unfold checkStatus
  by_cases htalking : session.isTalking = true
  · rw [if_pos htalking]
    exact .asked nofun (permits_of_isTalking htalking (.inl rfl))
  · rw [if_neg htalking]
    exact .idle nofun

theorem behaves_queryVersion (session : Session τ) :
    session.Behaves .queryVersion session.queryVersion := by
  unfold queryVersion
  by_cases htalking : session.isTalking = true
  · rw [if_pos htalking]
    exact .asked nofun (permits_of_isTalking htalking (.inr rfl))
  · rw [if_neg htalking]
    exact .idle nofun

theorem behaves_requestLogs (session : Session τ) (tag : τ) :
    session.Behaves (.requestLogs tag) (session.requestLogs tag) := by
  unfold requestLogs
  by_cases hready : session.phase = .ready
  · rw [if_pos hready]
    exact .asked nofun fun message _ => permits_of_ready hready message
  · rw [if_neg hready]
    exact .idle nofun

theorem behaves_clearLogs (session : Session τ) : session.Behaves .clearLogs session.clearLogs := by
  unfold clearLogs
  by_cases hready : session.phase = .ready
  · rw [if_pos hready]
    exact .asked nofun fun message _ => permits_of_ready hready message
  · rw [if_neg hready]
    exact .idle nofun

theorem behaves_takeHopEvent (h : session.phase = .ready) (parcel : Parcel) (kind : String)
    {event : SessionEvent} (hevent : event.isInitialized = false) (body : Json) :
    session.Behaves (.handle parcel) (takeHopEvent kind event body, session) := by
  unfold takeHopEvent
  split
  · exact .idle nofun
  · exact .told parcel h hevent
  · exact .idle nofun

theorem behaves_handleReady (h : session.phase = .ready) (parcel : Parcel) :
    session.Behaves (.handle parcel) (session.handleReady parcel) := by
  unfold handleReady
  split
  · unfold takeStatus
    split
    · exact .told parcel h rfl
    · exact .idle nofun
  · exact behaves_takeHopEvent h parcel _ rfl _
  · exact behaves_takeHopEvent h parcel _ rfl _
  · exact .told parcel h rfl
  · exact .idle nofun
  · exact .idle nofun

theorem behaves_handle (session : Session τ) (parcel : Parcel) :
    session.Behaves (.handle parcel) (session.handle parcel) := by
  unfold handle
  by_cases hversion : parcel.kind = "version"
  · rw [if_pos hversion]
    unfold takeVersion
    split
    · exact .versioned parcel _
    · exact .idle nofun
  rw [if_neg hversion]
  by_cases hreport : session.phase = .initializing ∧ parcel.kind = "status"
  · rw [if_pos hreport]
    exact .reported parcel _ _ hreport.1
  rw [if_neg hreport]
  by_cases hready : session.phase = .ready
  · rw [if_pos hready]
    exact behaves_handleReady hready parcel
  · rw [if_neg hready]
    exact .idle nofun

theorem behaves_step (session : Session τ) (input : Input τ) :
    session.Behaves input (session.step input) := by
  cases input with
  | connect => exact behaves_connect session
  | fail => exact behaves_fail session
  | adopt hops => exact .idle nofun
  | activate plan => exact behaves_activate session plan
  | deactivate purpose => exact behaves_deactivate session purpose
  | checkStatus => exact behaves_checkStatus session
  | queryVersion => exact behaves_queryVersion session
  | requestLogs tag => exact behaves_requestLogs session tag
  | clearLogs => exact behaves_clearLogs session
  | handle parcel => exact behaves_handle session parcel

/-! ## What a course keeps -/

/-- What has happened and been surfaced so far, seen from how far the session is. -/
structure Traced (inputs : List (Input τ)) (surfaced : List SessionEvent) (phase : Phase) :
    Prop where
  unannounced : phase = .unknown ∨ phase = .initializing →
    surfaced.countP SessionEvent.isInitialized = 0
  announced : phase = .ready → ∃ connected since, .initialized true connected since ∈ surfaced
  once : surfaced.countP SessionEvent.isInitialized ≤ 1
  disconnected_iff : phase = .disconnected ↔ .fail ∈ inputs

namespace Traced

variable {inputs : List (Input τ)} {surfaced : List SessionEvent} {phase next : Phase}
  {input : Input τ}

theorem fail_notMem (h : Traced inputs surfaced phase) (hphase : phase ≠ .disconnected) :
    .fail ∉ inputs :=
  mt h.disconnected_iff.mpr hphase

theorem fail_notMem_concat (h : Traced inputs surfaced phase) (hphase : phase ≠ .disconnected)
    (hinput : input ≠ .fail) : .fail ∉ inputs ++ [input] := by
  rw [List.mem_append, List.mem_singleton, not_or]
  exact ⟨h.fail_notMem hphase, hinput.symm⟩

/-- Nothing changes as long as the phase stays and no one hears that the session is initialized. -/
theorem stay (h : Traced inputs surfaced phase) (hinput : input = .fail → phase = .disconnected)
    {events : List SessionEvent} (hevents : events.countP SessionEvent.isInitialized = 0) :
    Traced (inputs ++ [input]) (surfaced ++ events) phase where
  unannounced hearly := by rw [List.countP_append, h.unannounced hearly, hevents]
  announced hready := by
    obtain ⟨connected, since, hmem⟩ := h.announced hready
    exact ⟨connected, since, List.mem_append_left _ hmem⟩
  once := by
    rw [List.countP_append, hevents]
    exact h.once
  disconnected_iff := by
    constructor
    · intro hphase
      exact List.mem_append_left _ (h.disconnected_iff.mp hphase)
    · intro hfail
      by_contra hphase
      exact h.fail_notMem_concat hphase (mt hinput hphase) hfail

theorem step {events : List SessionEvent} {outbound : List ClientMessage}
    (h : Traced inputs surfaced phase) (hconduct : Conduct phase input outbound events next) :
    Traced (inputs ++ [input]) (surfaced ++ events) next := by
  cases hconduct with
  | idle hinput => exact h.stay hinput rfl
  | asked hinput | refused hinput => exact h.stay (absurd · hinput) rfl
  | versioned parcel number => exact h.stay (by nofun) (by rfl)
  | told parcel hphase hevent =>
    refine h.stay (by nofun) ?_
    rw [List.countP_singleton, hevent]
    rfl
  | connected hphase =>
    have hnone := h.unannounced (.inl hphase)
    have hopen : .fail ∉ inputs ++ [.connect] := h.fail_notMem_concat (by simp [hphase]) nofun
    rw [List.append_nil]
    exact ⟨fun _ => hnone, nofun, h.once, by simpa using hopen⟩
  | reported parcel connected since hphase =>
    have hnone := h.unannounced (.inr hphase)
    have hopen : .fail ∉ inputs ++ [.handle parcel] := h.fail_notMem_concat (by simp [hphase]) nofun
    refine ⟨by simp, fun _ => ⟨connected, since, by simp⟩, ?_, by simpa using hopen⟩
    rw [List.countP_append, hnone]
    exact Nat.le_refl 1
  | lost hphase =>
    refine ⟨by simp, nofun, ?_, by simp⟩
    rw [List.countP_append]
    cases phase with
    | disconnected => exact absurd rfl hphase
    | unknown => exact h.once
    | ready => exact h.once
    | initializing =>
      rw [h.unannounced (.inr rfl)]
      exact Nat.le_refl 1

end Traced

theorem traced_run (inputs : List (Input τ)) :
    Traced inputs ((fresh : Session τ).run inputs).1.events (fresh.run inputs).2.phase := by
  induction inputs using List.reverseRecOn with
  | nil => exact ⟨fun _ => rfl, nofun, Nat.zero_le _, by simp [run, fresh]⟩
  | append_singleton inputs input ih =>
    rw [run_concat]
    exact ih.step (behaves_step _ input)

/-- What a session keeps to in a step, after what has happened and been surfaced before. -/
structure Disciplined (inputs : List (Input τ)) (past : Transition τ) (session : Session τ)
    (input : Input τ) (now : Transition τ) (next : Session τ) : Prop where
  onward : next.phase = session.phase ∨ session.phase.Advances next.phase
  final : session.phase = .disconnected → next.phase = .disconnected
  once : (past.events ++ now.events).countP SessionEvent.isInitialized ≤ 1
  tidings : ∀ event ∈ now.events, event.isTidings = true →
    (∃ connected since, .initialized true connected since ∈ past.events) ∧ .fail ∉ inputs ++ [input]
  permitted : ∀ message ∈ now.outbound, session.phase.permits message = true ∨
    session.phase = .unknown ∧ input = .connect ∧ now.outbound = [.status]
  loss : now.events = session.phase.lossEvents ↔ input = .fail ∧ .fail ∉ inputs
  silent : input = .fail → .fail ∈ inputs → now = .none ∧ next = session

section Conduct

variable {phase next : Phase} {input : Input τ} {outbound : List ClientMessage}
  {events : List SessionEvent}

theorem Conduct.onward (h : Conduct phase input outbound events next) :
    next = phase ∨ phase.Advances next := by
  cases h with
  | connected hphase => exact .inr (hphase ▸ .connected)
  | reported parcel connected since hphase => exact .inr (hphase ▸ .reported)
  | lost _ => exact .inr (.lost phase)
  | _ => exact .inl rfl

theorem Conduct.permitted (h : Conduct phase input outbound events next) :
    ∀ message ∈ outbound, phase.permits message = true ∨
      phase = .unknown ∧ input = .connect ∧ outbound = [.status] := by
  intro message hmessage
  cases h with
  | connected hphase => exact .inr ⟨hphase, rfl, rfl⟩
  | asked _ hpermits => exact .inl (hpermits message hmessage)
  | _ => cases hmessage

theorem isTidings_notMem_lossEvents {event : SessionEvent} (h : event ∈ phase.lossEvents) :
    event.isTidings = false := by
  revert event
  cases phase <;> decide

/-- How the exit hop fares is told only while the session is ready. -/
theorem Conduct.ready_of_tidings (h : Conduct phase input outbound events next)
    {event : SessionEvent} (hevent : event ∈ events) (htidings : event.isTidings = true) :
    phase = .ready ∧ input ≠ .fail := by
  cases h with
  | told parcel hphase _ => exact ⟨hphase, nofun⟩
  | lost _ =>
    rw [isTidings_notMem_lossEvents hevent] at htidings
    cases htidings
  | reported | refused | versioned =>
    rw [List.mem_singleton.mp hevent] at htidings
    cases htidings
  | _ => cases hevent

theorem Conduct.length_le_one (h : Conduct phase input outbound events next)
    (hinput : input ≠ .fail) : events.length ≤ 1 := by
  cases h with
  | lost _ => exact absurd rfl hinput
  | reported | refused | versioned | told => exact Nat.le_refl 1
  | _ => exact Nat.zero_le 1

/-- Only the loss of the transport surfaces more than one event. -/
theorem Conduct.loss_iff (h : Conduct phase input outbound events next) :
    events = phase.lossEvents ↔ input = .fail ∧ phase ≠ .disconnected := by
  have hlength := phase.one_lt_length_lossEvents
  constructor
  · intro hevents
    rw [← hevents] at hlength
    have hinput : input = .fail := by
      by_contra hinput
      exact absurd (h.length_le_one hinput) (Nat.not_le.mpr hlength)
    refine ⟨hinput, ?_⟩
    rintro rfl
    -- Once the session is over, a failure surfaces nothing.
    cases h with
    | lost hphase => exact hphase rfl
    | asked hother _ => exact hother hinput
    | refused hother => exact hother hinput
    | idle _ => cases hlength
    | _ => cases hinput
  · rintro ⟨rfl, hphase⟩
    cases h with
    | lost _ => rfl
    | idle hinput => exact absurd (hinput rfl) hphase
    | asked hinput _ => exact absurd rfl hinput
    | refused hinput => exact absurd rfl hinput

end Conduct

theorem fail_of_disconnected (h : session.phase = .disconnected) :
    session.fail = (.none, session) := by
  unfold fail
  rw [h]

/-- **A session is disciplined.** After any course, the next step leaves the phase as it is or takes
one of the ways forward, and a session that is over stays over. The course and the step together
announce the session at most once. How the exit hop fares is told only once the session has been
announced, and before the transport fails. What is sent is permitted in the phase, but for the one
question that comes with the connection. The loss of the transport is surfaced by the first failure
and by nothing else; a later failure does nothing at all. -/
theorem disciplined (inputs : List (Input τ)) (input : Input τ) :
    let (past, session) := (fresh : Session τ).run inputs
    let (now, next) := session.step input
    Disciplined inputs past session input now next := by
  have htraced := traced_run inputs
  have hconduct := behaves_step (fresh.run inputs).2 input
  refine ⟨hconduct.onward, ?_, ?_, ?_, hconduct.permitted, ?_, ?_⟩
  · intro hover
    exact phase_step_disconnected hover input
  · exact (htraced.step hconduct).once
  · intro event hevent htidings
    obtain ⟨hready, hinput⟩ := hconduct.ready_of_tidings hevent htidings
    exact ⟨htraced.announced hready, htraced.fail_notMem_concat (by simp [hready]) hinput⟩
  · exact hconduct.loss_iff.trans (and_congr_right fun _ => not_congr htraced.disconnected_iff)
  · rintro rfl hfailed
    exact Prod.mk.inj (fail_of_disconnected (htraced.disconnected_iff.mpr hfailed))

example :
    ((fresh : Session Nat).run [.connect, .queryVersion, .fail, .checkStatus, .fail]).1.events =
      [.initialized false false none, .controllerError, .disconnected] := rfl

end Session

end TunnelChain
