import TunnelChain.Proofs.Announcing
import TunnelChain.Proofs.Delivery
import TunnelChain.Proofs.Following
import TunnelChain.Proofs.Transport

/-!
# A desk

A service and the task of one connection to it. The core carries out one message at a time, whomever
it comes from. The task goes at its own pace: it reads a request, waits for the core, passes events
on and writes the replies. Who sends the requests, and who else talks to the service, is left open.
-/

namespace TunnelChain

variable {σ : Type}

/-- What the task of a connection is doing: it waits for input or events, or for the core's answer
to a message, or it has the replies and still passes events on. -/
inductive Stage where
  | listening
  | waiting (parcel : Parcel)
  | answering (replies : List DaemonMessage)

namespace Stage

instance : (stage : Stage) → Decidable (stage = .listening)
  | .listening => .isTrue rfl
  | .waiting _ => .isFalse nofun
  | .answering _ => .isFalse nofun

/-- The message that waits for the core. -/
def inHand : Stage → List Parcel
  | .waiting parcel => [parcel]
  | _ => []

theorem eq_waiting_of_mem_inHand {stage : Stage} {parcel : Parcel} (h : parcel ∈ stage.inHand) :
    stage = .waiting parcel := by
  cases stage with
  | waiting other => rw [List.mem_singleton.mp h]
  | listening => cases h
  | answering replies => cases h

end Stage

/-- A service, a connection to it with what its task is doing, and the requests on their way
there. -/
structure Desk (σ : Type) where
  service : Service σ
  stage : Stage
  connection : Connection
  requests : List ClientMessage

namespace Desk

/-- A peer has just connected, and has sent these requests. -/
def start (service : Service σ) (requests : List ClientMessage) : Desk σ :=
  ⟨service, .listening, .accept true, requests⟩

/-- The core carries out a message, and everybody is told of the events. -/
def carryOut (engine : Engine σ) (now : String) (parcel : Parcel) (desk : Desk σ) : Desk σ :=
  let reaction := Service.react engine now parcel desk.service
  { desk with
    service := reaction.state
    connection := desk.connection.notify reaction.events }

/-- The core carries out a message of this connection, whose task then has the replies. -/
def takeUp (engine : Engine σ) (now : String) (parcel : Parcel) (desk : Desk σ) : Desk σ :=
  { desk.carryOut engine now parcel with
    stage := .answering (Service.react engine now parcel desk.service).replies }

/-- The core looks after its engine. -/
def poll (engine : Engine σ) (desk : Desk σ) : Desk σ :=
  let (events, service) := desk.service.poll engine
  { desk with service, connection := desk.connection.notify events }

/-- The system changes of itself. -/
def strike (change : σ → σ) (desk : Desk σ) : Desk σ :=
  { desk with
    service.core.controller.system := change desk.service.core.controller.system }

/-- The task reads a request, hands the message to the core and waits for its answer. -/
def read (desk : Desk σ) : List Parcel × Desk σ :=
  match desk.stage, desk.requests with
  | .listening, request :: rest =>
    let (receipts, inbox) := desk.connection.inbox.feed request.encode
    let desk := { desk with connection := { desk.connection with inbox }, requests := rest }
    match parcels receipts with
    | [parcel] => ([parcel], { desk with stage := .waiting parcel })
    | _ => ([], desk)
  | _, _ => ([], desk)

/-- The task passes on an event, unless it waits for the core. -/
def pass (desk : Desk σ) : Desk σ :=
  match desk.stage with
  | .waiting _ => desk
  | _ => { desk with connection := desk.connection.pass }

/-- The task passes on what it has, and writes the replies. -/
def reply (desk : Desk σ) : Desk σ :=
  match desk.stage with
  | .answering replies =>
    { desk with stage := .listening, connection := desk.connection.reply replies }
  | _ => desk

/-- The peer takes the oldest message that has been written. -/
def next? (desk : Desk σ) : Option (DaemonMessage × Desk σ) :=
  match desk.connection.takeFirst 1 with
  | ([message], connection) => some (message, { desk with connection })
  | _ => none

/-- The peer sends requests. -/
def ask (messages : List ClientMessage) (desk : Desk σ) : Desk σ :=
  { desk with requests := desk.requests ++ messages }

/-! ## What a step comes to -/

variable {desk : Desk σ}

/-- What becomes of a desk when the request that is read first is whole. -/
def taking (request : ClientMessage) (rest : List ClientMessage) (desk : Desk σ) : Desk σ :=
  { desk with stage := .waiting (Message.client request).parcel, requests := rest }

theorem read_cons {request : ClientMessage} {rest : List ClientMessage}
    (hstage : desk.stage = .listening) (hrequests : desk.requests = request :: rest)
    (hread : desk.connection.inbox = .empty) :
    desk.read = ([(Message.client request).parcel], desk.taking request rest) := by
  obtain ⟨hparcels, hempty⟩ := (Message.client request).feed_encode
  have hconnection : { desk.connection with inbox := .empty } = desk.connection := by
    rw [← hread]
  have hencode : (Message.client request).encode = request.encode := rfl
  rw [hencode] at hparcels hempty
  simp only [read, hstage, hrequests, hread]
  cases hfeed : Inbox.empty.feed request.encode with
  | mk receipts inbox =>
    rw [hfeed] at hparcels hempty
    subst hempty
    dsimp only at hparcels ⊢
    rw [hparcels, hconnection]
    rfl

theorem read_idle (h : desk.stage = .listening → desk.requests = []) : desk.read = ([], desk) := by
  unfold read
  split
  · rename_i request rest hstage hrequests
    rw [h hstage] at hrequests
    cases hrequests
  · rfl

/-- Reading comes to nothing, or a whole request is read. -/
theorem read_cases (hread : desk.connection.inbox = .empty) :
    desk.read = ([], desk) ∨ ∃ request rest, desk.stage = .listening ∧
      desk.requests = request :: rest ∧
      desk.read = ([(Message.client request).parcel], desk.taking request rest) := by
  by_cases hidle : desk.stage = .listening → desk.requests = []
  · exact .inl (read_idle hidle)
  · obtain ⟨hstage, hrequests⟩ := Classical.not_imp.mp hidle
    obtain ⟨request, rest, hcons⟩ := List.exists_cons_of_ne_nil hrequests
    exact .inr ⟨request, rest, hstage, hcons, read_cons hstage hcons hread⟩

theorem service_read (hread : desk.connection.inbox = .empty) :
    desk.read.2.service = desk.service := by
  obtain hidle | ⟨request, rest, -, -, hnext⟩ := read_cases hread
  · rw [hidle]
  · rw [hnext]
    rfl

section Pass

variable (desk : Desk σ)

@[simp]
theorem service_pass : desk.pass.service = desk.service := by
  unfold pass
  split <;> rfl

@[simp]
theorem stage_pass : desk.pass.stage = desk.stage := by
  unfold pass
  split <;> rfl

@[simp]
theorem requests_pass : desk.pass.requests = desk.requests := by
  unfold pass
  split <;> rfl

@[simp]
theorem upcoming_pass : desk.pass.connection.upcoming = desk.connection.upcoming := by
  unfold pass
  split
  · rfl
  · exact desk.connection.pass_law.1

end Pass

theorem reply_answering {replies : List DaemonMessage}
    (hstage : desk.stage = .answering replies) :
    desk.reply =
      { desk with stage := .listening, connection := desk.connection.reply replies } := by
  unfold reply
  rw [hstage]

@[simp]
theorem service_reply (desk : Desk σ) : desk.reply.service = desk.service := by
  unfold reply
  split <;> rfl

theorem reply_idle (h : ∀ replies, desk.stage ≠ .answering replies) : desk.reply = desk := by
  unfold reply
  split
  · rename_i replies hstage
    exact absurd hstage (h replies)
  · rfl

/-- What becomes of a desk when the peer has left only these messages behind. -/
def leaving (rest : List DaemonMessage) (desk : Desk σ) : Desk σ :=
  { desk with connection := { desk.connection with written := rest } }

theorem next?_nil (hwritten : desk.connection.written = []) : desk.next? = none := by
  simp only [next?, Connection.takeFirst, hwritten, List.take_nil]

theorem next?_cons {message : DaemonMessage} {rest : List DaemonMessage}
    (hwritten : desk.connection.written = message :: rest) :
    desk.next? = some (message, desk.leaving rest) := by
  simp only [next?, Connection.takeFirst, hwritten, List.take_succ_cons, List.take_zero,
    List.drop_succ_cons, List.drop_zero]
  rfl

theorem upcoming_eq_cons {message : DaemonMessage} {rest : List DaemonMessage}
    (hwritten : desk.connection.written = message :: rest) :
    desk.connection.upcoming = message :: (desk.leaving rest).connection.upcoming := by
  unfold Connection.upcoming
  rw [hwritten]
  rfl

/-- A request that is taken up and answered with nothing in between changes the service and the
connection as it does where one message is handled at a time. -/
theorem reply_takeUp_eq_react {engine : Engine σ} {now name : String} {parcel : Parcel}
    {board : Switchboard (Service σ)} (hstate : board.state = desk.service)
    (hconnection : board.connections.get? name = some desk.connection) :
    (board.react (Service.react engine now) name parcel).state =
        (desk.takeUp engine now parcel).reply.service ∧
      (board.react (Service.react engine now) name parcel).connections.get? name =
        some (desk.takeUp engine now parcel).reply.connection := by
  obtain ⟨state, connections⟩ := board
  obtain rfl : state = desk.service := hstate
  refine ⟨rfl, ?_⟩
  rw [Switchboard.get?_react, hconnection, Option.map_some, if_pos rfl]
  rfl

/-! ## What holds at any time -/

/-- What holds of a desk at any time: the service's events have been handed on, and nothing is left
of a line that has been read. -/
structure Steady (desk : Desk σ) : Prop where
  taken : desk.service.core.controller.events = []
  read : desk.connection.inbox = .empty
  subscribed : desk.connection.backlog.isSome = true

theorem steady_start {service : Service σ} (hevents : service.core.controller.events = [])
    (requests : List ClientMessage) : (start service requests).Steady :=
  ⟨hevents, rfl, rfl⟩

namespace Steady

variable (h : desk.Steady)

include h

theorem notified {next : Desk σ} {events : List DaemonMessage}
    (htaken : next.service.core.controller.events = [])
    (hconnection : next.connection = desk.connection.notify events) : next.Steady where
  taken := htaken
  read := hconnection ▸ h.read
  subscribed := by
    rw [hconnection, Connection.notify, Option.isSome_map]
    exact h.subscribed

theorem carryOut (engine : Engine σ) (now : String) (parcel : Parcel) :
    (desk.carryOut engine now parcel).Steady :=
  h.notified rfl rfl

theorem takeUp (engine : Engine σ) (now : String) (parcel : Parcel) :
    (desk.takeUp engine now parcel).Steady :=
  h.notified rfl rfl

theorem poll (engine : Engine σ) : (desk.poll engine).Steady :=
  h.notified rfl rfl

theorem strike (change : σ → σ) : (desk.strike change).Steady :=
  ⟨h.taken, h.read, h.subscribed⟩

theorem read_snd : desk.read.2.Steady := by
  obtain hidle | ⟨request, rest, -, -, hnext⟩ := read_cases h.read
  · rw [hidle]
    exact h
  · rw [hnext]
    exact ⟨h.taken, h.read, h.subscribed⟩

theorem pass : desk.pass.Steady := by
  obtain ⟨-, hinbox, hbacklog⟩ := desk.connection.pass_law
  unfold Desk.pass
  split
  · exact h
  · exact ⟨h.taken, hinbox.trans h.read, hbacklog.trans h.subscribed⟩

theorem reply : desk.reply.Steady := by
  unfold Desk.reply
  split
  · rename_i replies hstage
    obtain ⟨-, hinbox, hbacklog⟩ := Connection.reply_law h.subscribed replies
    exact ⟨h.taken, hinbox.trans h.read, hbacklog⟩
  · exact h

theorem leaving (rest : List DaemonMessage) : (desk.leaving rest).Steady :=
  ⟨h.taken, h.read, h.subscribed⟩

theorem ask (messages : List ClientMessage) : (desk.ask messages).Steady :=
  ⟨h.taken, h.read, h.subscribed⟩

end Steady

/-! ## What is written down beside a system -/

section MapSystem

variable {τ : Type} {f : σ → τ} {engine : Engine σ} {image : Engine τ}

def mapSystem (f : σ → τ) (desk : Desk σ) : Desk τ :=
  { desk with service := desk.service.mapSystem f }

theorem carryOut_mapSystem (h : engine.Follows f image) (now : String) (parcel : Parcel)
    (desk : Desk σ) :
    (desk.mapSystem f).carryOut image now parcel =
      (desk.carryOut engine now parcel).mapSystem f := by
  unfold carryOut mapSystem
  dsimp only
  rw [Service.react_mapSystem h]

theorem takeUp_mapSystem (h : engine.Follows f image) (now : String) (parcel : Parcel)
    (desk : Desk σ) :
    (desk.mapSystem f).takeUp image now parcel = (desk.takeUp engine now parcel).mapSystem f := by
  unfold takeUp carryOut mapSystem
  dsimp only
  rw [Service.react_mapSystem h]

theorem poll_mapSystem (h : engine.Follows f image) (desk : Desk σ) :
    (desk.mapSystem f).poll image = (desk.poll engine).mapSystem f := by
  unfold poll Service.poll
  dsimp only [mapSystem, Service.mapSystem]
  rw [Core.poll_mapSystem h]
  rfl

theorem read_mapSystem (f : σ → τ) (desk : Desk σ) :
    (desk.mapSystem f).read = (desk.read.1, desk.read.2.mapSystem f) := by
  obtain ⟨service, stage, connection, requests⟩ := desk
  unfold read
  dsimp only [mapSystem]
  cases stage with
  | listening =>
    cases requests with
    | nil => rfl
    | cons request rest =>
      dsimp only
      rcases parcels (connection.inbox.feed request.encode).1 with _ | ⟨parcel, _ | ⟨second, more⟩⟩
      · rfl
      · rfl
      · rfl
  | waiting parcel => rfl
  | answering replies => rfl

theorem pass_mapSystem (f : σ → τ) (desk : Desk σ) :
    (desk.mapSystem f).pass = desk.pass.mapSystem f := by
  obtain ⟨service, stage, connection, requests⟩ := desk
  cases stage with
  | listening => rfl
  | waiting parcel => rfl
  | answering replies => rfl

theorem reply_mapSystem (f : σ → τ) (desk : Desk σ) :
    (desk.mapSystem f).reply = desk.reply.mapSystem f := by
  obtain ⟨service, stage, connection, requests⟩ := desk
  cases stage with
  | listening => rfl
  | waiting parcel => rfl
  | answering replies => rfl

theorem next?_mapSystem (f : σ → τ) (desk : Desk σ) :
    (desk.mapSystem f).next? = desk.next?.map (Prod.map id (mapSystem f)) := by
  obtain ⟨service, stage, connection, requests⟩ := desk
  unfold next?
  dsimp only [mapSystem]
  rcases connection.takeFirst 1 with ⟨_ | ⟨message, _ | ⟨second, rest⟩⟩, connection⟩
  · rfl
  · rfl
  · rfl

end MapSystem

end Desk

end TunnelChain
