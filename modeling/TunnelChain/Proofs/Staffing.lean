import TunnelChain.Proofs.Listening
import TunnelChain.Proofs.Scene
import TunnelChain.Proofs.Settling
import TunnelChain.Proofs.Visit

/-!
# Who sits at a desk

At a desk a request is read, handled or answered in one go. The task that serves a connection takes
many steps for that: it reads bytes, has a message handled step by step, and writes line by line
what leaves in portions. Whatever happens at a desk, that task can come to the same. So a scene or a
visit is one way in which the service, the task and the peer can go on.
-/

namespace TunnelChain

variable {σ : Type}

/-! ## Two connections that have come to the same -/

/-- What is kept of the newest events does not depend on how many were missed. -/
theorem Backlog.events_pushAll_congr {left right : Backlog} (h : left.events = right.events)
    (events : List DaemonMessage) :
    (left.pushAll events).events = (right.pushAll events).events := by
  induction events generalizing left right with
  | nil => exact h
  | cons event rest ih =>
    refine ih ?_
    unfold push
    rw [h]
    split <;> rfl

namespace Connection

/-- Whether a connection has come to the same as another from which its peer has taken these
messages. Their logs, and how many events they count as missed, may differ. -/
structure Matches (connection other : Connection) (taken : List DaemonMessage) : Prop where
  inbox : connection.inbox = other.inbox
  events : connection.backlog.map (·.events) = other.backlog.map (·.events)
  written : connection.written = taken ++ other.written

variable {connection other : Connection} {taken : List DaemonMessage}

theorem written_reply (connection : Connection) (replies : List DaemonMessage) :
    (connection.reply replies).written = connection.upcoming ++ replies := by
  rw [reply, (writeAll_law _ replies).1]
  congr 1
  unfold flush upcoming
  cases hbacklog : connection.backlog with
  | none => exact (List.append_nil _).symm
  | some backlog =>
    dsimp only
    split
    · exact (writeAll_law _ _).1
    · exact (writeAll_law _ _).1

theorem backlog_reply (connection : Connection) (replies : List DaemonMessage) :
    (connection.reply replies).backlog = connection.backlog.map fun _ => .empty :=
  (writeAll_law _ replies).2.1.trans connection.backlog_flush

namespace Matches

variable (h : connection.Matches other taken)

include h

theorem upcoming : connection.upcoming = taken ++ other.upcoming := by
  rw [Connection.upcoming, Connection.upcoming, h.events, h.written, List.append_assoc]

theorem notify (events : List DaemonMessage) :
    (connection.notify events).Matches (other.notify events) taken := by
  refine ⟨h.inbox, ?_, h.written⟩
  have hbacklogs := h.events
  unfold Connection.notify
  cases hleft : connection.backlog with
  | none =>
    rw [hleft] at hbacklogs
    rw [Option.map_eq_none_iff.mp hbacklogs.symm]
  | some left =>
    rw [hleft] at hbacklogs
    obtain ⟨right, hright, hsame⟩ := Option.map_eq_some_iff.mp hbacklogs.symm
    rw [hright]
    exact congrArg some (Backlog.events_pushAll_congr hsame.symm events)

theorem reply (hsubscribed : other.backlog.isSome = true) (replies : List DaemonMessage) :
    (connection.reply replies).Matches (other.reply replies) taken := by
  have hsubscribed' : connection.backlog.isSome = true := by
    rw [← Option.isSome_map (f := (·.events)), h.events, Option.isSome_map]
    exact hsubscribed
  obtain ⟨-, hinbox, -⟩ := reply_law hsubscribed replies
  obtain ⟨-, hinbox', -⟩ := reply_law hsubscribed' replies
  refine ⟨?_, ?_, ?_⟩
  · rw [hinbox', hinbox, h.inbox]
  · have hempty := congrArg (Option.map fun _ : List DaemonMessage => ([] : List DaemonMessage))
      h.events
    rw [Option.map_map, Option.map_map] at hempty
    rw [backlog_reply, backlog_reply, Option.map_map, Option.map_map]
    exact hempty
  · rw [written_reply, written_reply, h.upcoming, List.append_assoc]

end Matches

end Connection

/-- The task passes an event on if there is one. -/
theorem Serving.Stands.relay_one (handler : String → Parcel → Handling σ) {serving : Serving σ}
    {state : σ} {connection other : Connection} {waiting : List Parcel} {duty : Duty σ}
    {taken : List DaemonMessage} (h : serving.Stands state connection waiting duty)
    (hrelays : Relays waiting duty) (hmatches : connection.Matches other taken) :
    ∃ later, serving.Leads handler state later waiting duty ∧ later.Matches other.pass taken := by
  have hevents := hmatches.events
  unfold Connection.pass
  split
  · rename_i missed event rest hother
    rw [hother] at hevents
    obtain ⟨⟨missed', events⟩, hbacklog, hsame⟩ := Option.map_eq_some_iff.mp hevents
    obtain rfl : events = event :: rest := hsame
    have hpassed (noted : Connection) (hinbox : noted.inbox = other.inbox)
        (hwritten : noted.written = taken ++ other.written) :
        ({ noted with backlog := some ⟨0, rest⟩ }.write event).Matches
          ({ other with backlog := some ⟨missed, rest⟩ }.write event) taken := by
      refine ⟨hinbox, rfl, ?_⟩
      change noted.written ++ [event] = taken ++ (other.written ++ [event])
      rw [hwritten, List.append_assoc]
    cases missed' with
    | zero =>
      exact ⟨_, h.relay_event hrelays hbacklog, hpassed _ hmatches.inbox hmatches.written⟩
    | succ missed' =>
      have hleads : serving.Leads handler _ _ _ _ :=
        (h.relay_missed hrelays hbacklog).trans fun _ hlater => hlater.relay_event hrelays rfl
      exact ⟨_, hleads, hpassed _ hmatches.inbox hmatches.written⟩
  · exact ⟨connection, h.leads, hmatches⟩

/-! ## One desk -/

/-- What a serving task is at in a stage. -/
def Stage.duty : Stage → Duty σ
  | .answering replies => .flushing replies
  | _ => .writing []

/-- Whether a serving task stands where the task of a desk does, whose peer has taken these
messages. -/
def Serving.Staffs (serving : Serving (Service σ)) (desk : Desk σ) (taken : List DaemonMessage) :
    Prop :=
  ∃ connection, serving.Stands desk.service connection desk.stage.inHand desk.stage.duty ∧
    connection.Matches desk.connection taken

/-- Whether a task that serves a connection to this service can come to where a desk stands. -/
def Desk.Staffed (engine : Engine σ) (first : Service σ) (taken : List DaemonMessage)
    (desk : Desk σ) : Prop :=
  ∃ acts, ((Serving.start first).play (Service.handling engine) acts).Staffs desk taken

namespace Desk

variable {engine : Engine σ} {first : Service σ} {desk next : Desk σ}
  {taken taken' : List DaemonMessage}

theorem staffed_start (engine : Engine σ) (first : Service σ) (requests : List ClientMessage) :
    (start first requests).Staffed engine first [] :=
  ⟨[], .accept true, ⟨rfl, rfl, rfl, rfl, rfl⟩, rfl, rfl, rfl⟩

namespace Staffed

/-- The task goes on. -/
theorem extend (h : desk.Staffed engine first taken)
    (hnext : ∀ serving : Serving (Service σ), serving.Staffs desk taken →
      ∃ acts, (serving.play (Service.handling engine) acts).Staffs next taken') :
    next.Staffed engine first taken' := by
  obtain ⟨acts, hstaffs⟩ := h
  obtain ⟨more, hmore⟩ := hnext _ hstaffs
  refine ⟨acts ++ more, ?_⟩
  rw [Serving.play, List.foldl_append]
  exact hmore

/-- Somebody else changes the service, and everybody is told of the events. -/
theorem disturb (h : desk.Staffed engine first taken)
    (change : Service σ → List DaemonMessage × Service σ) :
    { desk with
      service := (change desk.service).2
      connection :=
        desk.connection.notify (change desk.service).1 }.Staffed engine first taken := by
  refine h.extend fun serving ⟨connection, hstands, hmatches⟩ => ?_
  refine ⟨[.disturb change], connection.notify (change desk.service).1, ?_, hmatches.notify _⟩
  change (serving.disturb change).Stands _ _ _ _
  obtain ⟨hstate, hconnection, hwaiting, hduty, hclear⟩ := hstands
  rw [← hstate, ← hconnection]
  exact ⟨rfl, rfl, hwaiting, hduty, hclear⟩

theorem carryOut (h : desk.Staffed engine first taken) (now : String) (parcel : Parcel) :
    (desk.carryOut engine now parcel).Staffed engine first taken :=
  h.disturb fun service =>
    let reaction := Service.react engine now parcel service
    (reaction.events, reaction.state)

theorem poll (h : desk.Staffed engine first taken) :
    (desk.poll engine).Staffed engine first taken :=
  h.disturb (·.poll engine)

theorem strike (h : desk.Staffed engine first taken) (change : σ → σ) :
    (desk.strike change).Staffed engine first taken := by
  have hstruck := h.disturb fun service =>
    ([], { service with core.controller.system := change service.core.controller.system })
  rw [Connection.notify_nil] at hstruck
  exact hstruck

/-- The message that waits for the core is taken up. -/
theorem takeUp (h : desk.Staffed engine first taken) {parcel : Parcel}
    (hstage : desk.stage = .waiting parcel) (now : String) :
    (desk.takeUp engine now parcel).Staffed engine first taken := by
  refine h.extend fun serving ⟨connection, hstands, hmatches⟩ => ?_
  rw [hstage] at hstands
  have hleads : serving.Leads (Service.handling engine) _ _ _ _ := hstands.take now
  rw [Service.handling, Handling.finish_ofHandler] at hleads
  obtain ⟨own, -, hlater⟩ := hleads
  exact ⟨own, _, hlater, hmatches.notify _⟩

/-- A request arrives and waits for the core. -/
theorem taking (h : desk.Staffed engine first taken) (hstage : desk.stage = .listening)
    (hread : desk.connection.inbox = .empty) (request : ClientMessage)
    (rest : List ClientMessage) : (desk.taking request rest).Staffed engine first taken := by
  refine h.extend fun serving ⟨connection, hstands, hmatches⟩ => ?_
  rw [hstage] at hstands
  obtain ⟨hparcels, hempty⟩ := (Message.client request).feed_encode
  have hinbox : connection.inbox = .empty := hmatches.inbox.trans hread
  have hlistening : serving.isListening = true := by
    simp [Serving.isListening, hstands.duty, hstands.waiting, hstands.clear, Stage.duty,
      Stage.inHand, Duty.isFree]
  let receipts := (Inbox.empty.feed (Message.client request).encode).1
  refine ⟨[.read (Message.client request).encode],
    { connection with log := connection.log ++ receipts.flatMap (·.log) }, ?_,
    hmatches.inbox, hmatches.events, hmatches.written⟩
  change (serving.read _).Stands _ _ _ _
  rw [Serving.read, if_pos hlistening, hstands.connection, hinbox]
  refine ⟨hstands.state, ?_, hparcels, hstands.duty, hstands.clear⟩
  dsimp only
  rw [hempty]

theorem read (h : desk.Staffed engine first taken) (hread : desk.connection.inbox = .empty) :
    desk.read.2.Staffed engine first taken := by
  obtain hidle | ⟨request, rest, hstage, -, hnext⟩ := read_cases hread
  · rw [hidle]
    exact h
  · rw [hnext]
    exact h.taking hstage hread request rest

theorem pass (h : desk.Staffed engine first taken) : desk.pass.Staffed engine first taken := by
  have hpassed (hrelays : Serving.Relays desk.stage.inHand
        (desk.stage.duty : Duty (Service σ))) :
      { desk with connection := desk.connection.pass }.Staffed engine first taken := by
    refine h.extend fun serving ⟨connection, hstands, hmatches⟩ => ?_
    obtain ⟨later, ⟨own, -, hlater⟩, hmatches⟩ :=
      hstands.relay_one (Service.handling engine) hrelays hmatches
    exact ⟨own, later, hlater, hmatches⟩
  obtain ⟨service, stage, connection, requests⟩ := desk
  cases stage with
  | listening => exact hpassed (.inr ⟨rfl, rfl⟩)
  | waiting parcel => exact h
  | answering replies => exact hpassed (.inl ⟨replies, rfl⟩)

theorem reply (h : desk.Staffed engine first taken)
    (hsubscribed : desk.connection.backlog.isSome = true) :
    desk.reply.Staffed engine first taken := by
  unfold Desk.reply
  split
  · rename_i replies hstage
    refine h.extend fun serving ⟨connection, hstands, hmatches⟩ => ?_
    rw [hstage] at hstands
    have hleads : serving.Leads (Service.handling engine) _ _ _ _ := hstands.reply
    obtain ⟨own, -, hlater⟩ := hleads
    exact ⟨own, _, hlater, hmatches.reply hsubscribed replies⟩
  · exact h

/-- The peer takes the oldest message that has been written. -/
theorem leaving (h : desk.Staffed engine first taken) {message : DaemonMessage}
    {rest : List DaemonMessage} (hwritten : desk.connection.written = message :: rest) :
    (desk.leaving rest).Staffed engine first (taken ++ [message]) := by
  refine h.extend fun serving ⟨connection, hstands, hmatches⟩ => ?_
  refine ⟨[], connection, hstands, hmatches.inbox, hmatches.events, ?_⟩
  rw [hmatches.written, hwritten, List.append_assoc]
  rfl

theorem ask (h : desk.Staffed engine first taken) (messages : List ClientMessage) :
    (desk.ask messages).Staffed engine first taken :=
  h

end Staffed

end Desk

/-! ## Visits and scenes -/

variable {engine : Engine σ} {first : Service σ} {taken : List DaemonMessage}

namespace Visit

variable {visit : Visit σ}

theorem staffed_act (hsteady : visit.Steady) (h : visit.Staffed engine first visit.heard)
    (act : Act σ) : (visit.act engine act).Staffed engine first (visit.act engine act).heard := by
  cases act with
  | execute now =>
    change (visit.execute engine now).Staffed engine first (visit.execute engine now).heard
    unfold execute
    split
    · rename_i parcel hstage
      exact h.takeUp hstage now
    · exact h
  | poll => exact h.poll
  | strike change => exact h.strike change
  | read => exact h.read hsteady.read
  | pass => exact h.pass
  | reply => exact h.reply hsteady.subscribed
  | hear =>
    change visit.hear.Staffed engine first visit.hear.heard
    cases hwritten : visit.connection.written with
    | nil =>
      rw [hear_nil hwritten]
      exact h
    | cons message rest =>
      rw [hear_cons hwritten]
      exact (h.leaving hwritten).ask _
  | expire => exact h
  | lose => exact h

/-- **Visits are served.** Whatever happens in a visit, a task that serves a connection can come to
the same: the same state, the same messages read and waiting, and in its output those that the
command has heard and those on their way to it. -/
theorem staffed_play (errand : Errand) {service : Service σ}
    (hevents : service.core.controller.events = []) (engine : Engine σ) (acts : List (Act σ)) :
    ((start errand service).play engine acts).Staffed engine service
      ((start errand service).play engine acts).heard := by
  induction acts using List.reverseRecOn with
  | nil => exact Desk.staffed_start engine service _
  | append_singleton acts last ih =>
    rw [play_append_singleton]
    exact staffed_act ((steady_start errand hevents).play engine acts) ih last

end Visit

namespace Scene

variable {scene : Scene σ}

/-- Whether the client's message with which the connection's task waits is the one in the queue. -/
def IsQueued (scene : Scene σ) : Prop :=
  scene.asked = scene.stage.inHand.map ((.observer, ·))

/-- The client's message that the core comes to is the one with which the task waits. -/
theorem IsQueued.eq_waiting (h : scene.IsQueued) {parcel : Parcel}
    {rest : List (Sender × Parcel)} (hqueue : scene.queue = (.observer, parcel) :: rest) :
    scene.stage = .waiting parcel ∧ rest.filter (·.1 = .observer) = [] := by
  unfold IsQueued at h
  rw [asked_observer hqueue] at h
  cases hstage : scene.stage with
  | listening =>
    rw [hstage] at h
    cases h
  | waiting other =>
    rw [hstage] at h
    obtain ⟨hparcel, hrest⟩ := List.cons.inj h
    obtain rfl : parcel = other := congrArg Prod.snd hparcel
    exact ⟨rfl, hrest⟩
  | answering replies =>
    rw [hstage] at h
    cases h

theorem isQueued_act (hsteady : scene.Steady) (h : scene.IsQueued) (engine : Engine σ)
    (act : Act) : (scene.act engine act).IsQueued := by
  cases act with
  | send parcel => exact (asked_append rfl).trans ((List.append_nil _).trans h)
  | execute now =>
    change (scene.execute engine now).IsQueued
    match hqueue : scene.queue with
    | [] =>
      rw [execute_nil hqueue]
      exact h
    | (.observer, parcel) :: rest =>
      rw [execute_observer hqueue]
      exact (h.eq_waiting hqueue).2
    | (.other, parcel) :: rest =>
      rw [execute_other hqueue]
      exact (asked_other hqueue).symm.trans h
  | poll => exact h
  | read =>
    change scene.read.IsQueued
    by_cases hidle : scene.stage = .listening → scene.requests = []
    · rw [read_idle hidle]
      exact h
    · obtain ⟨hstage, hrequests⟩ := Classical.not_imp.mp hidle
      obtain ⟨request, rest, hcons⟩ := List.exists_cons_of_ne_nil hrequests
      have hread := read_cons hstage hcons hsteady.read
      have hqueue : scene.read.queue =
          scene.queue ++ [(.observer, (Message.client request).parcel)] := by
        rw [hread]
      rw [IsQueued, asked_append hqueue, h, hstage, hread]
      rfl
  | pass =>
    change scene.asked = scene.toDesk.pass.stage.inHand.map _
    rw [Desk.stage_pass]
    exact h
  | reply =>
    change scene.reply.IsQueued
    cases hstage : scene.stage with
    | answering replies =>
      rw [reply_answering hstage]
      unfold IsQueued at h
      rw [hstage] at h
      exact h
    | listening =>
      rw [reply_idle fun _ hanswering => Stage.noConfusion (hstage.symm.trans hanswering)]
      exact h
    | waiting parcel =>
      rw [reply_idle fun _ hanswering => Stage.noConfusion (hstage.symm.trans hanswering)]
      exact h
  | hear =>
    change scene.hear.IsQueued
    cases hwritten : scene.connection.written with
    | nil =>
      rw [hear_nil hwritten]
      exact h
    | cons message rest =>
      rw [hear_cons hwritten]
      exact h

theorem staffed_act (hsteady : scene.Steady) (hqueued : scene.IsQueued)
    (h : scene.Staffed engine first taken) (act : Act) :
    ∃ taken', (scene.act engine act).Staffed engine first taken' := by
  cases act with
  | send parcel => exact ⟨taken, h⟩
  | execute now =>
    change ∃ taken', (scene.execute engine now).Staffed engine first taken'
    match hqueue : scene.queue with
    | [] =>
      rw [execute_nil hqueue]
      exact ⟨taken, h⟩
    | (.observer, parcel) :: rest =>
      rw [execute_observer hqueue]
      exact ⟨taken, h.takeUp (hqueued.eq_waiting hqueue).1 now⟩
    | (.other, parcel) :: rest =>
      rw [execute_other hqueue]
      exact ⟨taken, h.carryOut now parcel⟩
  | poll => exact ⟨taken, h.poll⟩
  | read => exact ⟨taken, h.read hsteady.read⟩
  | pass => exact ⟨taken, h.pass⟩
  | reply => exact ⟨taken, h.reply hsteady.subscribed⟩
  | hear =>
    change ∃ taken', scene.hear.Staffed engine first taken'
    cases hwritten : scene.connection.written with
    | nil =>
      rw [hear_nil hwritten]
      exact ⟨taken, h⟩
    | cons message rest =>
      rw [hear_cons hwritten]
      exact ⟨taken ++ [message], (h.leaving hwritten).ask _⟩

/-- **Scenes are served.** Whatever the order of the steps, a task that serves a connection can come
to the same as the task of a scene. -/
theorem staffed_play {service : Service σ} (hevents : service.core.controller.events = [])
    (engine : Engine σ) (acts : List Act) :
    ∃ taken, ((start service).play engine acts).Staffed engine service taken := by
  have hrun : ((start service).play engine acts).Steady ∧
      ((start service).play engine acts).IsQueued ∧
      ∃ taken, ((start service).play engine acts).Staffed engine service taken := by
    induction acts using List.reverseRecOn with
    | nil =>
      exact ⟨⟨Desk.steady_start hevents _, rfl, rfl⟩, rfl, [], Desk.staffed_start engine service _⟩
    | append_singleton acts last ih =>
      obtain ⟨hsteady, hqueued, taken, hstaffed⟩ := ih
      rw [play_append_singleton]
      exact ⟨hsteady.act engine last, isQueued_act hsteady hqueued engine last,
        staffed_act hsteady hqueued hstaffed last⟩
  exact hrun.2.2

end Scene

end TunnelChain
