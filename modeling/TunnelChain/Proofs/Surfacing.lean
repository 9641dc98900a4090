import TunnelChain.Proofs.Hearing
import TunnelChain.Proofs.LogRequest

/-!
# What a session surfaces

A daemon's message means the same to the session that hears it. A session that is ready surfaces it
and is left as it was; one that is not ready yet waits for the report that makes it so.
-/

namespace TunnelChain

/-- What a session that is ready surfaces of a report: nothing, unless there is a tunnel to report
of. -/
def StatusReport.surfaced (report : StatusReport) : List SessionEvent :=
  match report.gatewayIpv4, report.deviceIpv4, report.sent, report.received with
  | some gateway, some device, some sent, some received =>
    [.statusUpdated gateway device sent.toNat received.toNat]
  | _, _, _, _ => []

namespace DaemonMessage

/-- What a session that is ready surfaces of a message. -/
def surfaced : DaemonMessage → List SessionEvent
  | .connected hop => if hop = 0 then [.connected] else []
  | .disconnected hop => if hop = 0 then [.disconnected] else []
  | .backendFailure => [.controllerError]
  | .status report => report.surfaced
  | .logs _ => []
  | .version number => [.version number]

/-- What a session that is to become ready surfaces of a message. -/
def surfacedEarly : DaemonMessage → List SessionEvent
  | .status report => [.initialized true report.connected report.since]
  | .version number => [.version number]
  | _ => []

/-- Where a message leads a session that is to become ready. -/
def phaseAfter : DaemonMessage → Phase
  | .status _ => .ready
  | _ => .initializing

end DaemonMessage

theorem bind_natural?_sorted (option : Option UInt64) :
    ((option.map fun count => natJson count.toNat).map Json.sorted).bind Json.natural? =
      option.map UInt64.toNat := by
  cases option <;> rfl

namespace Session

variable {τ : Type} {session : Session τ}

theorem takeStatus_report (report : StatusReport) :
    (takeStatus (Message.daemon (.status report)).parcel.body : Transition τ).events =
        report.surfaced ∧
      (takeStatus (Message.daemon (.status report)).parcel.body : Transition τ).outbound = [] := by
  have hnodup := (DaemonMessage.status report).nodup_names
  obtain ⟨-, hgateway, hdevice, -, hsent, hreceived⟩ := report.says_fields "status"
  have hfield (name : String) : (Message.daemon (.status report)).parcel.body.field? name =
      ((("type", .str "status") :: report.fields).lookup name).map Json.sorted :=
    Json.field?_sorted hnodup name
  unfold takeStatus StatusReport.surfaced
  simp only [hfield, hgateway, hdevice, hsent, hreceived, Json.bind_text?_sorted,
    bind_natural?_sorted]
  cases report.gatewayIpv4 <;> cases report.deviceIpv4 <;> cases report.sent <;>
    cases report.received <;> exact ⟨rfl, rfl⟩

theorem handle_ready_message (h : session.phase = .ready) (message : DaemonMessage)
    (hlogs : ∀ text, message ≠ .logs text) :
    Surfaces (session.handle (Message.daemon message).parcel) message.surfaced session := by
  cases message with
  | connected hop => exact handle_ready h (.connected hop)
  | disconnected hop => exact handle_ready h (.disconnected hop)
  | backendFailure => exact handle_ready h .backendFailure
  | status report =>
    have hkind : (Message.daemon (.status report)).parcel.kind = "status" := rfl
    unfold handle
    rw [hkind, if_neg (by decide), if_neg (by simp [h]), if_pos h]
    exact ⟨(takeStatus_report report).1, (takeStatus_report report).2, rfl⟩
  | logs text => exact absurd rfl (hlogs text)
  | version number => exact session.handle_version number

theorem handle_initializing_message (h : session.phase = .initializing) (message : DaemonMessage) :
    Surfaces (session.handle (Message.daemon message).parcel) message.surfacedEarly
      { session with phase := message.phaseAfter } := by
  have hsame : { session with phase := .initializing } = session := by rw [← h]
  cases message with
  | status report => exact handle_report h report
  | connected hop => exact hsame ▸ handle_initializing h (.connected hop)
  | disconnected hop => exact hsame ▸ handle_initializing h (.disconnected hop)
  | backendFailure => exact hsame ▸ handle_initializing h .backendFailure
  | version number => exact hsame ▸ session.handle_version number
  | logs text =>
    have hkind : (Message.daemon (.logs text)).parcel.kind = "logs" := rfl
    unfold handle
    rw [hkind, if_neg (by decide), if_neg (by simp), if_neg (by simp [h])]
    exact ⟨rfl, rfl, hsame.symm⟩

/-- Whether a step surfaces these events and leads to this session, and neither sends nor answers
anything. -/
structure OnlySurfaces (result : Transition τ × Session τ) (events : List SessionEvent)
    (next : Session τ) : Prop extends Surfaces result events next where
  replies : result.1.replies = []

/-- While the request that waits goes on waiting, nothing is answered. -/
theorem onlySurfaces_of_waiting {parcel : Parcel} {events : List SessionEvent} {next : Session τ}
    (h : Surfaces (session.handle parcel) events next) (hwaiting : next.waiting = session.waiting) :
    OnlySurfaces (session.handle parcel) events next := by
  have hkept := session.answered_handle parcel
  rw [h.next, hwaiting, List.append_left_eq_self] at hkept
  exact ⟨h, List.map_eq_nil_iff.mp hkept⟩

/-- **Heard as meant.** However a daemon's message is cut on its way, a session that is ready
surfaces what the message means, and does nothing else about it, if it is no log; a session that is
to become ready does so at the first report, and otherwise surfaces nothing but the answer to a
version query. -/
theorem heard_as_meant {message : DaemonMessage} {chunks : List Bytes}
    (hchunks : chunks.flatten = message.encode) (session : Session τ) :
    ∃ parcel, Brings chunks parcel ∧
      (session.phase = .ready → (∀ text, message ≠ .logs text) →
        OnlySurfaces (session.handle parcel) message.surfaced session) ∧
      (session.phase = .initializing →
        OnlySurfaces (session.handle parcel) message.surfacedEarly
          { session with phase := message.phaseAfter }) := by
  refine ⟨_, (Message.daemon message).brings_encode hchunks, fun hready hlogs => ?_,
    fun hinitializing => ?_⟩
  · exact onlySurfaces_of_waiting (handle_ready_message hready message hlogs) rfl
  · exact onlySurfaces_of_waiting (handle_initializing_message hinitializing message) rfl

/-- A report with characters that take several bytes, the largest and the smallest count, and a leap
second. -/
def fullReport : StatusReport :=
  ⟨true, some "10.64.0.1 \u00e9", some "\"🔑", some "2024-02-29T23:59:60.5-01:30",
    some 18446744073709551615, some 0⟩

/-- It, cut within its last character that takes several bytes. -/
def fullReportCut : List Bytes :=
  cutAt 94 (DaemonMessage.status fullReport).encode

theorem heard_as_meant_fullReport :
    fullReportCut.flatten = (DaemonMessage.status fullReport).encode ∧
      (∃ parcel, Brings fullReportCut parcel ∧
        OnlySurfaces ((Session.mk .ready 2 (some 7)).handle parcel)
          [.statusUpdated "10.64.0.1 \u00e9" "\"🔑" 18446744073709551615 0] ⟨.ready, 2, some 7⟩) ∧
      ∃ parcel, Brings fullReportCut parcel ∧
        OnlySurfaces ((Session.mk .initializing 0 (none : Option Nat)).handle parcel)
          [.initialized true true (some ⟨2024, 3, 1, 1, 29, 59, 1500000000⟩)]
            ⟨.ready, 0, none⟩ := by
  have hcut : fullReportCut.flatten = (DaemonMessage.status fullReport).encode := flatten_cutAt _ _
  have hlogs (text : String) : DaemonMessage.status fullReport ≠ .logs text := nofun
  have hsince : fullReport.since = some ⟨2024, 3, 1, 1, 29, 59, 1500000000⟩ := by decide +kernel
  obtain ⟨parcel, hbrings, hready, -⟩ := heard_as_meant hcut ⟨.ready, 2, some 7⟩
  obtain ⟨first, hbringsFirst, -, hfirst⟩ :=
    heard_as_meant hcut ⟨.initializing, 0, (none : Option Nat)⟩
  have hsurfaced := hfirst rfl
  rw [DaemonMessage.surfacedEarly, hsince] at hsurfaced
  exact ⟨hcut, ⟨parcel, hbrings, hready rfl hlogs⟩, first, hbringsFirst, hsurfaced⟩

end Session

end TunnelChain
