import TunnelChain.Client.Stream
import TunnelChain.Control.Chain
import TunnelChain.Proofs.Transport

/-!
# What a client hears

Before the first state report a session ignores every event; the report makes it ready, and from
then on it surfaces what happens to the exit hop.
-/

namespace TunnelChain

/-- What a session that is ready surfaces of an event. -/
def HopEvent.surfaced : HopEvent → List SessionEvent
  | .connected hop => if hop = 0 then [.connected] else []
  | .disconnected hop => if hop = 0 then [.disconnected] else []
  | .backendFailure => [.controllerError]

def HopEvent.parcel (event : HopEvent) : Parcel :=
  (Message.daemon event.toMessage).parcel

theorem HopEvent.kind_parcel_ne (event : HopEvent) :
    event.parcel.kind ≠ "version" ∧ event.parcel.kind ≠ "status" := by
  cases event <;> simp [parcel, toMessage, Message.parcel, Message.kind, DaemonMessage.kind]

/-- Since when the exit hop is connected, if a report says so. -/
def StatusReport.since (report : StatusReport) : Option Instant :=
  if report.connected then report.date.bind Instant.parse? else none

theorem Json.bind_text?_sorted (option : Option String) :
    ((option.map Json.str).map Json.sorted).bind Json.text? = option := by
  cases option <;> rfl

variable {τ : Type}

/-- Whether a step surfaces these events, sends nothing, and leaves this. -/
structure Surfaces {α : Type} (result : Transition τ × α) (events : List SessionEvent) (next : α) :
    Prop where
  events : result.1.events = events
  outbound : result.1.outbound = []
  next : result.2 = next

namespace Session

variable {session : Session τ}

theorem handle_initializing (h : session.phase = .initializing) (event : HopEvent) :
    Surfaces (session.handle event.parcel) [] session := by
  obtain ⟨hversion, hstatus⟩ := event.kind_parcel_ne
  have hready : session.phase ≠ .ready := by rw [h]; decide
  unfold handle
  rw [if_neg hversion, if_neg fun hboth => hstatus hboth.2, if_neg hready]
  exact ⟨rfl, rfl, rfl⟩

theorem handle_report (h : session.phase = .initializing) (report : StatusReport) :
    Surfaces (session.handle (Message.daemon (.status report)).parcel)
      [.initialized true report.connected report.since] { session with phase := .ready } := by
  have hnodup := (DaemonMessage.status report).nodup_names
  obtain ⟨hconnected, -, -, hdate, -, -⟩ := report.says_fields "status"
  have hflag : ((Message.daemon (.status report)).parcel.body.field? "connected").bind Json.flag? =
      some report.connected := by
    rw [Message.parcel, Message.toJson, DaemonMessage.toJson, Json.field?_sorted hnodup]
    rw [DaemonMessage.fields, DaemonMessage.kind, hconnected]
    rfl
  have htext : ((Message.daemon (.status report)).parcel.body.field? "date").bind Json.text? =
      report.date := by
    rw [Message.parcel, Message.toJson, DaemonMessage.toJson, Json.field?_sorted hnodup]
    rw [DaemonMessage.fields, DaemonMessage.kind, hdate, Json.bind_text?_sorted]
  have hkind : (Message.daemon (.status report)).parcel.kind = "status" := rfl
  unfold handle
  rw [hkind, if_neg (by decide), if_pos ⟨h, rfl⟩]
  unfold becomeReady
  rw [hflag, htext]
  exact ⟨rfl, rfl, rfl⟩

/-- The answer to the version query is surfaced whatever the session makes of other messages. -/
theorem handle_version (session : Session τ) (number : UInt32) :
    Surfaces (session.handle (Message.daemon (.version number)).parcel)
    [.version number] session := by
  have hnodup := (DaemonMessage.version number).nodup_names
  have hfield : (Message.daemon (.version number)).parcel.body.field? "version" =
      some (natJson number.toNat) := Json.field?_sorted hnodup "version"
  have hread :
      ((Message.daemon (.version number)).parcel.body.field? "version").bind Json.natural? =
        some number.toNat := by
    rw [hfield]
    rfl
  have hkind : (Message.daemon (.version number)).parcel.kind = "version" := rfl
  unfold handle
  rw [hkind, if_pos rfl]
  unfold takeVersion
  rw [hread]
  dsimp only
  rw [UInt32.ofNat_toNat]
  exact ⟨rfl, rfl, rfl⟩

theorem takeHopEvent_law (kind : String) (event : SessionEvent) {body : Json} {hop : HopIndex}
    (hbody : body.field? "hopindex" = some (natJson hop.toNat)) :
    (takeHopEvent kind event body : Transition τ).events = (if hop = 0 then [event] else []) ∧
      (takeHopEvent kind event body : Transition τ).outbound = [] := by
  have hread : (body.field? "hopindex").bind Json.natural? = some hop.toNat := by
    rw [hbody]
    rfl
  unfold takeHopEvent
  rw [hread]
  by_cases hexit : hop = 0
  · subst hexit
    exact ⟨rfl, rfl⟩
  · rw [if_neg hexit]
    cases hnat : hop.toNat with
    | zero => exact absurd (UInt32.toNat_inj.mp hnat) hexit
    | succ n => exact ⟨rfl, rfl⟩

theorem handle_ready (h : session.phase = .ready) (event : HopEvent) :
    Surfaces (session.handle event.parcel) event.surfaced session := by
  obtain ⟨hversion, hstatus⟩ := event.kind_parcel_ne
  have hnodup := event.toMessage.nodup_names
  unfold handle
  rw [if_neg hversion, if_neg fun hboth => hstatus hboth.2, if_pos h]
  cases event with
  | connected hop =>
    have hfield := Json.field?_sorted hnodup "hopindex"
    exact ⟨(takeHopEvent_law "connected" .connected hfield).1,
      (takeHopEvent_law "connected" .connected hfield).2, rfl⟩
  | disconnected hop =>
    have hfield := Json.field?_sorted hnodup "hopindex"
    exact ⟨(takeHopEvent_law "disconnected" .disconnected hfield).1,
      (takeHopEvent_law "disconnected" .disconnected hfield).2, rfl⟩
  | backendFailure => exact ⟨rfl, rfl, rfl⟩

end Session

namespace Client

variable {client : Client τ}

theorem hearAll_append (client : Client τ) (first rest : List Parcel) :
    client.hearAll (first ++ rest) =
      ((client.hearAll first).1.append ((client.hearAll first).2.hearAll rest).1,
        ((client.hearAll first).2.hearAll rest).2) := by
  induction first generalizing client with
  | nil => simp [hearAll, Transition.append, Transition.none]
  | cons parcel first ih =>
    simp only [List.cons_append, hearAll, ih, Transition.append, List.append_assoc]

theorem hearAll_stream (client : Client τ) (parcels : List Parcel) :
    (client.hearAll parcels).2.isOpen = client.isOpen ∧
      (client.hearAll parcels).2.inbox = client.inbox := by
  induction parcels generalizing client with
  | nil => exact ⟨rfl, rfl⟩
  | cons parcel rest ih => exact ih _

theorem hearAll_of_surfaces {f : HopEvent → List SessionEvent}
    (h : ∀ event : HopEvent,
      Surfaces (client.session.handle event.parcel) (f event) client.session)
    (events : List HopEvent) :
    Surfaces (client.hearAll (events.map HopEvent.parcel)) (events.flatMap f) client := by
  induction events with
  | nil => exact ⟨rfl, rfl, rfl⟩
  | cons event rest ih =>
    obtain ⟨hevents, houtbound, hsession⟩ := h event
    rw [List.map_cons, hearAll, take]
    simp only [hsession]
    refine ⟨?_, ?_, ih.next⟩
    · rw [Transition.append, hevents, ih.events]
      rfl
    · rw [Transition.append, houtbound, ih.outbound]
      rfl

theorem hearAll_initializing (h : client.session.phase = .initializing) (events : List HopEvent) :
    Surfaces (client.hearAll (events.map HopEvent.parcel)) [] client := by
  have hsurfaces := hearAll_of_surfaces (Session.handle_initializing h) events
  have hnothing : (events.flatMap fun _ => ([] : List SessionEvent)) = [] := by simp
  rwa [hnothing] at hsurfaces

theorem hearAll_ready (h : client.session.phase = .ready) (events : List HopEvent) :
    Surfaces (client.hearAll (events.map HopEvent.parcel)) (events.flatMap HopEvent.surfaced)
      client :=
  hearAll_of_surfaces (Session.handle_ready h) events

theorem hearAll_report (h : client.session.phase = .initializing) (report : StatusReport) :
    ∃ since, Surfaces (client.hearAll [(Message.daemon (.status report)).parcel])
      [.initialized true report.connected since]
      { client with session := { client.session with phase := .ready } } := by
  obtain ⟨hevents, houtbound, hsession⟩ := Session.handle_report h report
  refine ⟨report.since, ?_, ?_, ?_⟩
  · rw [← hevents]
    exact List.append_nil _
  · rw [← houtbound]
    exact List.append_nil _
  · rw [← hsession]
    rfl

/-- A message that arrives whole, with nothing left over from before, is heard. -/
theorem receive_encode (hopen : client.isOpen = true) (hinbox : client.inbox = .empty)
    (message : Message) :
    (client.receive message.encode).1.events = (client.hearAll [message.parcel]).1.events ∧
      (client.receive message.encode).1.outbound = (client.hearAll [message.parcel]).1.outbound ∧
      (client.receive message.encode).2 = (client.hearAll [message.parcel]).2 := by
  obtain ⟨hparcels, hempty⟩ := message.feed_encode
  unfold receive
  rw [if_pos hopen, hinbox]
  cases hfeed : Inbox.empty.feed message.encode with
  | mk receipts inbox =>
    rw [hfeed] at hparcels hempty
    subst hempty
    have hsame : { client with inbox := Inbox.empty } = client := by rw [← hinbox]
    dsimp only at hparcels ⊢
    rw [hparcels, hsame]
    exact ⟨rfl, rfl, rfl⟩

end Client

end TunnelChain
