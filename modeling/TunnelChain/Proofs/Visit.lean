import TunnelChain.Proofs.Attending
import TunnelChain.Proofs.Conversing
import TunnelChain.Proofs.Desk

/-!
# A command's visit to a daemon

A command holds its dialogue with a daemon that nobody else talks to. The core, the connection's
task and the command go at their own pace, and the system may change at any time. What the command
was told when it heard the answer to its version query is what the daemon had said when it took the
query up, unless the engine died meanwhile, and then the command was told that, too.
-/

namespace TunnelChain

variable {σ : Type}

/-! ## The parties and their steps -/

/-- A desk and a command at the other end of its connection: the command's dialogue, and what it has
heard. -/
structure Visit (σ : Type) extends Desk σ where
  dialogue : Errand.Dialogue
  heard : List DaemonMessage

namespace Visit

/-- A step of one of the parties: the core carries out what it is asked, or looks after its engine;
the system changes; the connection's task reads a request, passes on an event, or writes its
replies; the command hears a message, has waited for too long, or finds its connection closed. -/
inductive Act (σ : Type) where
  | execute (now : String)
  | poll
  | strike (change : σ → σ)
  | read
  | pass
  | reply
  | hear
  | expire
  | lose

/-- A command has just connected to a daemon. -/
def start (errand : Errand) (service : Service σ) : Visit σ :=
  { Desk.start service errand.start.1 with
    dialogue := errand.start.2
    heard := [] }

/-- The core carries out what waits for it. -/
def execute (engine : Engine σ) (now : String) (visit : Visit σ) : Visit σ :=
  match visit.stage with
  | .waiting parcel => { visit with toDesk := visit.toDesk.takeUp engine now parcel }
  | _ => visit

def poll (engine : Engine σ) (visit : Visit σ) : Visit σ :=
  { visit with toDesk := visit.toDesk.poll engine }

def strike (change : σ → σ) (visit : Visit σ) : Visit σ :=
  { visit with toDesk := visit.toDesk.strike change }

def read (visit : Visit σ) : Visit σ :=
  { visit with toDesk := visit.toDesk.read.2 }

def pass (visit : Visit σ) : Visit σ :=
  { visit with toDesk := visit.toDesk.pass }

def reply (visit : Visit σ) : Visit σ :=
  { visit with toDesk := visit.toDesk.reply }

def hear (visit : Visit σ) : Visit σ :=
  match visit.toDesk.next? with
  | some (message, desk) =>
    let (messages, dialogue) := visit.dialogue.receive message.encode
    { visit with
      toDesk := desk.ask messages
      dialogue
      heard := visit.heard ++ [message] }
  | none => visit

def act (engine : Engine σ) (visit : Visit σ) : Act σ → Visit σ
  | .execute now => visit.execute engine now
  | .poll => visit.poll engine
  | .strike change => visit.strike change
  | .read => visit.read
  | .pass => visit.pass
  | .reply => visit.reply
  | .hear => visit.hear
  | .expire => { visit with dialogue := visit.dialogue.timeOut }
  | .lose => { visit with dialogue := visit.dialogue.lose.2 }

def play (engine : Engine σ) (visit : Visit σ) (acts : List (Act σ)) : Visit σ :=
  acts.foldl (act engine) visit

/-- The hops that are up. -/
def hops (visit : Visit σ) : Finset HopIndex :=
  visit.service.core.controller.chain.hops

/-- Whether the core is about to take up the command's version query. -/
def isInquiring (visit : Visit σ) : Bool :=
  match visit.stage with
  | .waiting parcel => parcel.kind = "version"
  | _ => false

theorem hops_pass (visit : Visit σ) : visit.pass.hops = visit.hops :=
  congrArg (fun service : Service σ => service.core.controller.chain.hops)
    visit.toDesk.service_pass

theorem play_append_singleton (engine : Engine σ) (visit : Visit σ) (played : List (Act σ))
    (last : Act σ) :
    visit.play engine (played ++ [last]) = (visit.play engine played).act engine last :=
  List.foldl_append

/-! ## One step -/

variable {engine : Engine σ} {visit : Visit σ}

/-- What holds of a visit at any time: its desk is steady. -/
abbrev Steady (visit : Visit σ) : Prop :=
  visit.toDesk.Steady

theorem execute_waiting {parcel : Parcel} (hstage : visit.stage = .waiting parcel)
    (engine : Engine σ) (now : String) :
    visit.execute engine now =
      { visit with toDesk := visit.toDesk.takeUp engine now parcel } := by
  rw [execute, hstage]

theorem execute_idle (h : ∀ parcel, visit.stage ≠ .waiting parcel) (engine : Engine σ)
    (now : String) : visit.execute engine now = visit := by
  unfold execute
  split
  · rename_i parcel hstage
    exact absurd hstage (h parcel)
  · rfl

theorem read_cons {request : ClientMessage} {rest : List ClientMessage}
    (hstage : visit.stage = .listening) (hrequests : visit.requests = request :: rest)
    (hread : visit.connection.inbox = .empty) :
    visit.read = { visit with toDesk := visit.toDesk.taking request rest } := by
  rw [read, Desk.read_cons hstage hrequests hread]

theorem read_idle (h : visit.stage = .listening → visit.requests = []) : visit.read = visit := by
  rw [read, Desk.read_idle h]

theorem reply_answering {replies : List DaemonMessage} (hstage : visit.stage = .answering replies) :
    visit.reply =
      { visit with stage := .listening, connection := visit.connection.reply replies } := by
  rw [reply, Desk.reply_answering hstage]

theorem reply_idle (h : ∀ replies, visit.stage ≠ .answering replies) : visit.reply = visit := by
  rw [reply, Desk.reply_idle h]

/-- What becomes of a visit in which the command hears the next message. -/
def heardNext (visit : Visit σ) (message : DaemonMessage) (rest : List DaemonMessage) : Visit σ :=
  { visit with
    toDesk := (visit.toDesk.leaving rest).ask (visit.dialogue.receive message.encode).1
    dialogue := (visit.dialogue.receive message.encode).2
    heard := visit.heard ++ [message] }

section HeardNext

variable (visit : Visit σ) (message : DaemonMessage) (rest : List DaemonMessage)

@[simp]
theorem stage_heardNext : (visit.heardNext message rest).stage = visit.stage := rfl

@[simp]
theorem requests_heardNext :
    (visit.heardNext message rest).requests =
      visit.requests ++ (visit.dialogue.receive message.encode).1 := rfl

@[simp]
theorem dialogue_heardNext :
    (visit.heardNext message rest).dialogue = (visit.dialogue.receive message.encode).2 := rfl

end HeardNext

theorem hear_nil (hwritten : visit.connection.written = []) : visit.hear = visit := by
  rw [hear, Desk.next?_nil hwritten]

theorem hear_cons {message : DaemonMessage} {rest : List DaemonMessage}
    (hwritten : visit.connection.written = message :: rest) :
    visit.hear = visit.heardNext message rest := by
  rw [hear, Desk.next?_cons hwritten]
  rfl

theorem upcoming_eq_cons {message : DaemonMessage} {rest : List DaemonMessage}
    (hwritten : visit.connection.written = message :: rest) :
    visit.connection.upcoming =
      message :: (visit.heardNext message rest).connection.upcoming :=
  Desk.upcoming_eq_cons hwritten

theorem Steady.act (h : visit.Steady) (engine : Engine σ) (act : Act σ) :
    (visit.act engine act).Steady := by
  cases act with
  | execute now =>
    change (visit.execute engine now).Steady
    unfold execute
    split
    · exact h.takeUp engine now _
    · exact h
  | poll => exact h.poll engine
  | strike change => exact h.strike change
  | read => exact h.read_snd
  | pass => exact h.pass
  | reply => exact h.reply
  | hear =>
    change visit.hear.Steady
    cases hwritten : visit.connection.written with
    | nil =>
      rw [hear_nil hwritten]
      exact h
    | cons message rest =>
      rw [hear_cons hwritten]
      exact (h.leaving rest).ask _
  | expire => exact h
  | lose => exact h

theorem Steady.play (h : visit.Steady) (engine : Engine σ) (acts : List (Act σ)) :
    (visit.play engine acts).Steady := by
  induction acts generalizing visit with
  | nil => exact h
  | cons act rest ih => exact ih (h.act engine act)

theorem steady_start (errand : Errand) {service : Service σ}
    (hevents : service.core.controller.events = []) : (start errand service).Steady :=
  Desk.steady_start hevents _

/-! ## Requests arrive whole -/

/-- What reading comes to, told without the bytes of the request. -/
def takeRequest (visit : Visit σ) : Visit σ :=
  match visit.stage, visit.requests with
  | .listening, request :: rest => { visit with toDesk := visit.toDesk.taking request rest }
  | _, _ => visit

def actPlainly (engine : Engine σ) (visit : Visit σ) : Act σ → Visit σ
  | .read => visit.takeRequest
  | act => visit.act engine act

def playPlainly (engine : Engine σ) (visit : Visit σ) (acts : List (Act σ)) : Visit σ :=
  acts.foldl (actPlainly engine) visit

theorem read_eq_takeRequest (hread : visit.connection.inbox = .empty) :
    visit.read = visit.takeRequest := by
  unfold takeRequest
  split
  · rename_i request rest hstage hrequests
    exact read_cons hstage hrequests hread
  · rename_i hidle
    refine read_idle fun hstage => ?_
    cases hrequests : visit.requests with
    | nil => rfl
    | cons request rest => exact absurd hrequests (hidle request rest hstage)

/-- A visit can be followed without the bytes of its requests. -/
theorem play_eq_playPlainly (h : visit.Steady) (engine : Engine σ) (acts : List (Act σ)) :
    visit.play engine acts = visit.playPlainly engine acts := by
  induction acts generalizing visit with
  | nil => rfl
  | cons act rest ih =>
    have hact : visit.actPlainly engine act = visit.act engine act := by
      cases act with
      | read => exact (read_eq_takeRequest h.read).symm
      | _ => rfl
    rw [play, playPlainly, List.foldl_cons, List.foldl_cons, hact]
    exact ih (h.act engine act)

end Visit

/-! ## What a daemon answers -/

namespace Service

variable {engine : Engine σ} {service : Service σ}

/-- A request for the state is answered with a report. -/
theorem react_report (engine : Engine σ) (now : String) (service : Service σ) :
    ∃ report, (react engine now (Message.client .status).parcel service).replies =
      [.status report] :=
  ⟨_, rfl⟩

/-- A version query is answered, and nothing is raised. -/
theorem react_version (hevents : service.core.controller.events = []) (engine : Engine σ)
    (now : String) :
    (react engine now (Message.client .version).parcel service).replies =
      [.version protocolVersion] ∧
      (react engine now (Message.client .version).parcel service).events = [] :=
  ⟨rfl, congrArg (List.map HopEvent.toMessage) hevents⟩

theorem exists_said (engine : Engine σ) (now : String) (parcel : Parcel) (service : Service σ) :
    ∃ said : List HopEvent, (react engine now parcel service).events =
      said.map HopEvent.toMessage :=
  ⟨_, rfl⟩

/-- A daemon that looks after its engine changes nothing and says nothing, or it says that the
engine has failed. -/
theorem poll_law (hevents : service.core.controller.events = []) (engine : Engine σ) :
    ∃ said : List HopEvent, (service.poll engine).1 = said.map HopEvent.toMessage ∧
      (said = [] ∧ (service.poll engine).2.core.controller.chain = service.core.controller.chain ∨
        .backendFailure ∈ said) := by
  refine ⟨_, rfl, ?_⟩
  change (service.core.poll engine).controller.events = [] ∧
    (service.core.poll engine).controller.chain = service.core.controller.chain ∨
    .backendFailure ∈ (service.core.poll engine).controller.events
  unfold Core.poll
  split
  · dsimp only
    unfold Controller.checkLiveness
    split
    · exact .inl ⟨hevents, rfl⟩
    · refine .inr (Controller.deactivateEach_induction
        (P := fun after => HopEvent.backendFailure ∈ after.events) (fun _ _ _ h => h) ?_ ?_ _)
      · intro before hop hbefore
        obtain ⟨xs, next, said, -, hturns⟩ := Controller.deactivate_law engine hop true before
        rw [hturns.events]
        exact List.mem_append_left _ hbefore
      · exact List.mem_append_right _ List.mem_cons_self
  · exact .inl ⟨hevents, rfl⟩

end Service

end TunnelChain
