import TunnelChain.Proofs.Desk
import TunnelChain.Proofs.Hearing

/-!
# One client among others

A service that several clients use, as one of them sees it: its requests and the answers to them
travel apart from the events that everybody's messages raise, and every party goes at its own pace.
Whatever the order of the steps, a client that has everything still under way for it will hear the
same in the end.
-/

namespace TunnelChain

variable {σ : Type}

/-- Who has sent a message: the client that is looked at, or anybody else. -/
inductive Sender where
  | observer
  | other
deriving DecidableEq

/-- A desk with the messages that wait for its core, and one client at the other end of its
connection, with what its session has surfaced. -/
structure Scene (σ : Type) extends Desk σ where
  queue : List (Sender × Parcel)
  client : Client Unit
  surfaced : List SessionEvent

/-- A step of one of the parties: another client sends a message; the core carries out the oldest
message, or looks after its engine; the connection's task reads a request, passes on an event, or
writes its replies; the client hears a message. -/
inductive Act where
  | send (parcel : Parcel)
  | execute (now : String)
  | poll
  | read
  | pass
  | reply
  | hear

namespace Scene

/-- A client has just connected to a service. -/
def start (service : Service σ) : Scene σ :=
  let (transition, client) := Client.start
  { Desk.start service transition.outbound with
    queue := []
    client
    surfaced := transition.events }

/-- The core carries out the oldest message. -/
def execute (engine : Engine σ) (now : String) (scene : Scene σ) : Scene σ :=
  match scene.queue with
  | [] => scene
  | (.observer, parcel) :: rest =>
    { scene with toDesk := scene.toDesk.takeUp engine now parcel, queue := rest }
  | (.other, parcel) :: rest =>
    { scene with toDesk := scene.toDesk.carryOut engine now parcel, queue := rest }

def poll (engine : Engine σ) (scene : Scene σ) : Scene σ :=
  { scene with toDesk := scene.toDesk.poll engine }

def read (scene : Scene σ) : Scene σ :=
  let (taken, desk) := scene.toDesk.read
  { scene with toDesk := desk, queue := scene.queue ++ taken.map ((.observer, ·)) }

def pass (scene : Scene σ) : Scene σ :=
  { scene with toDesk := scene.toDesk.pass }

def reply (scene : Scene σ) : Scene σ :=
  { scene with toDesk := scene.toDesk.reply }

def hear (scene : Scene σ) : Scene σ :=
  match scene.toDesk.next? with
  | some (message, desk) =>
    let (transition, client) := scene.client.receive message.encode
    { scene with
      toDesk := desk.ask transition.outbound
      client
      surfaced := scene.surfaced ++ transition.events }
  | none => scene

def act (engine : Engine σ) (scene : Scene σ) : Act → Scene σ
  | .send parcel => { scene with queue := scene.queue ++ [(.other, parcel)] }
  | .execute now => scene.execute engine now
  | .poll => scene.poll engine
  | .read => scene.read
  | .pass => scene.pass
  | .reply => scene.reply
  | .hear => scene.hear

def play (engine : Engine σ) (scene : Scene σ) (acts : List Act) : Scene σ :=
  acts.foldl (act engine) scene

def mapSystem {τ : Type} (f : σ → τ) (scene : Scene σ) : Scene τ :=
  { scene with toDesk := scene.toDesk.mapSystem f }

theorem act_mapSystem {τ : Type} {f : σ → τ} {engine : Engine σ} {image : Engine τ}
    (h : engine.Follows f image) (scene : Scene σ) (act : Act) :
    (scene.mapSystem f).act image act = (scene.act engine act).mapSystem f := by
  obtain ⟨desk, queue, client, surfaced⟩ := scene
  cases act with
  | send parcel => rfl
  | execute now =>
    match queue with
    | [] => rfl
    | (.observer, parcel) :: rest =>
      exact congrArg (Scene.mk · rest client surfaced) (desk.takeUp_mapSystem h now parcel)
    | (.other, parcel) :: rest =>
      exact congrArg (Scene.mk · rest client surfaced) (desk.carryOut_mapSystem h now parcel)
  | poll => exact congrArg (Scene.mk · queue client surfaced) (desk.poll_mapSystem h)
  | read =>
    dsimp only [act, read, mapSystem]
    rw [Desk.read_mapSystem]
  | pass => exact congrArg (Scene.mk · queue client surfaced) (desk.pass_mapSystem f)
  | reply => exact congrArg (Scene.mk · queue client surfaced) (desk.reply_mapSystem f)
  | hear =>
    dsimp only [act, hear, mapSystem]
    rw [Desk.next?_mapSystem]
    cases desk.next? with
    | none => rfl
    | some taken => rfl

/-- What is written down beside a system changes nothing of what the parties do and hear. -/
theorem play_mapSystem {τ : Type} {f : σ → τ} {engine : Engine σ} {image : Engine τ}
    (h : engine.Follows f image) (scene : Scene σ) (acts : List Act) :
    (scene.mapSystem f).play image acts = (scene.play engine acts).mapSystem f := by
  induction acts generalizing scene with
  | nil => rfl
  | cons act rest ih =>
    rw [play, List.foldl_cons, act_mapSystem h, ← play, ih]
    rfl

/-- Whether nothing is under way any more. -/
structure Settled (scene : Scene σ) : Prop where
  queue : scene.queue = []
  stage : scene.stage = .listening
  requests : scene.requests = []
  backlog : scene.connection.backlog = some .empty
  written : scene.connection.written = []

instance (scene : Scene σ) : Decidable scene.Settled :=
  decidable_of_iff (scene.queue = [] ∧ scene.stage = .listening ∧ scene.requests = [] ∧
      scene.connection.backlog = some .empty ∧ scene.connection.written = [])
    ⟨fun ⟨hqueue, hstage, hrequests, hbacklog, hwritten⟩ =>
      ⟨hqueue, hstage, hrequests, hbacklog, hwritten⟩,
      fun h => ⟨h.queue, h.stage, h.requests, h.backlog, h.written⟩⟩

/-- Whether the exit hop is up. -/
def isUp (scene : Scene σ) : Bool :=
  scene.service.core.controller.chain.contains 0

variable {scene : Scene σ} {engine : Engine σ}

theorem play_transcribed (engine : Engine σ) (scene : Scene (Transcript σ)) (acts : List Act) :
    (scene.play engine.transcribed acts).mapSystem Transcript.system =
      (scene.mapSystem Transcript.system).play engine acts :=
  (play_mapSystem engine.transcribed_follows scene acts).symm

theorem play_append_singleton (engine : Engine σ) (scene : Scene σ) (played : List Act)
    (last : Act) :
    scene.play engine (played ++ [last]) = (scene.play engine played).act engine last := by
  rw [play, List.foldl_append, List.foldl_cons, List.foldl_nil, ← play]

/-- What the client comes to if it hears all that is still under way for it. -/
def prospect (scene : Scene σ) : Transition Unit × Client Unit :=
  scene.client.hearAll
    (scene.connection.upcoming.map fun message => (Message.daemon message).parcel)

/-- Whether the client, once it has heard all that is under way, has surfaced these events and is in
this phase, and has nothing to ask for. -/
structure Foretells (scene : Scene σ) (events : List SessionEvent) (phase : Phase) : Prop where
  events : scene.surfaced ++ scene.prospect.1.events = events
  outbound : scene.prospect.1.outbound = []
  phase : scene.prospect.2.session.phase = phase

/-- What holds of a scene at any time: its desk is steady, and the client has heard whole lines. -/
structure Steady (scene : Scene σ) : Prop extends scene.toDesk.Steady where
  isOpen : scene.client.isOpen = true
  heard : scene.client.inbox = .empty

theorem Foretells.of_upcoming {next : Scene σ} {events : List SessionEvent} {phase : Phase}
    (h : scene.Foretells events phase) (hclient : next.client = scene.client)
    (hsurfaced : next.surfaced = scene.surfaced)
    (hupcoming : next.connection.upcoming = scene.connection.upcoming) :
    next.Foretells events phase := by
  have hprospect : next.prospect = scene.prospect := by
    unfold prospect
    rw [hclient, hupcoming]
  refine ⟨?_, ?_, ?_⟩
  · rw [hsurfaced, hprospect]
    exact h.events
  · rw [hprospect]
    exact h.outbound
  · rw [hprospect]
    exact h.phase

theorem prospect_append {next : Scene σ} (hclient : next.client = scene.client)
    {messages : List DaemonMessage}
    (hupcoming : next.connection.upcoming = scene.connection.upcoming ++ messages) :
    next.prospect =
      (scene.prospect.1.append (scene.prospect.2.hearAll
          (messages.map fun message => (Message.daemon message).parcel)).1,
        (scene.prospect.2.hearAll
          (messages.map fun message => (Message.daemon message).parcel)).2) := by
  unfold prospect
  rw [hclient, hupcoming, List.map_append, Client.hearAll_append]

theorem Foretells.append {next : Scene σ} {events later : List SessionEvent} {phase phase' : Phase}
    {messages : List DaemonMessage} {client : Client Unit} (h : scene.Foretells events phase)
    (hclient : next.client = scene.client) (hsurfaced : next.surfaced = scene.surfaced)
    (hupcoming : next.connection.upcoming = scene.connection.upcoming ++ messages)
    (hmore : Surfaces (scene.prospect.2.hearAll
      (messages.map fun message => (Message.daemon message).parcel)) later client)
    (hphase : client.session.phase = phase') : next.Foretells (events ++ later) phase' := by
  rw [← hmore.next] at hphase
  refine ⟨?_, ?_, ?_⟩
  · rw [prospect_append hclient hupcoming, hsurfaced, Transition.append, hmore.events,
      ← List.append_assoc, h.events]
  · rw [prospect_append hclient hupcoming, Transition.append, h.outbound, hmore.outbound]
    rfl
  · rw [prospect_append hclient hupcoming]
    exact hphase

/-- What becomes of a scene in which the client hears the next message. -/
def heardNext (scene : Scene σ) (message : DaemonMessage) (rest : List DaemonMessage) : Scene σ :=
  { scene with
    toDesk :=
      (scene.toDesk.leaving rest).ask (scene.client.receive message.encode).1.outbound
    client := (scene.client.receive message.encode).2
    surfaced := scene.surfaced ++ (scene.client.receive message.encode).1.events }

theorem hear_nil (hwritten : scene.connection.written = []) : scene.hear = scene := by
  rw [hear, Desk.next?_nil hwritten]

theorem hear_cons {message : DaemonMessage} {rest : List DaemonMessage}
    (hwritten : scene.connection.written = message :: rest) :
    scene.hear = scene.heardNext message rest := by
  rw [hear, Desk.next?_cons hwritten]
  rfl

theorem Foretells.heardNext {message : DaemonMessage} {rest : List DaemonMessage}
    {events : List SessionEvent} {phase : Phase} (h : scene.Foretells events phase)
    (hsteady : scene.Steady) (hwritten : scene.connection.written = message :: rest) :
    (scene.heardNext message rest).Foretells events phase ∧
      (scene.heardNext message rest).requests = scene.requests := by
  obtain ⟨hevents, houtbound, hclient⟩ :=
    Client.receive_encode hsteady.isOpen hsteady.heard (.daemon message)
  -- The message that is heard now is the first of those that were to come.
  have hfirst : scene.connection.upcoming =
      message :: (scene.heardNext message rest).connection.upcoming :=
    Desk.upcoming_eq_cons hwritten
  have hprospect : scene.prospect =
      ((scene.client.hearAll [(Message.daemon message).parcel]).1.append
        (scene.heardNext message rest).prospect.1, (scene.heardNext message rest).prospect.2) := by
    unfold prospect
    rw [hfirst, List.map_cons, ← List.singleton_append, Client.hearAll_append, ← hclient]
    rfl
  obtain ⟨hforetold, hquiet, hphase⟩ := h
  rw [hprospect, Transition.append] at hforetold hquiet
  rw [hprospect] at hphase
  obtain ⟨hquiet, hquiet'⟩ := List.append_eq_nil_iff.mp hquiet
  refine ⟨⟨?_, hquiet', hphase⟩, ?_⟩
  · rw [← hforetold, ← hevents, ← List.append_assoc]
    rfl
  · change scene.requests ++ (scene.client.receive message.encode).1.outbound = scene.requests
    have houtbound' : (scene.client.receive message.encode).1.outbound = [] :=
      houtbound.trans hquiet
    rw [houtbound', List.append_nil]

theorem Steady.heardNext {message : DaemonMessage} {rest : List DaemonMessage}
    (h : scene.Steady) : (scene.heardNext message rest).Steady := by
  obtain ⟨-, -, hclient⟩ := Client.receive_encode h.isOpen h.heard (.daemon message)
  obtain ⟨hopen, hinbox⟩ := scene.client.hearAll_stream [(Message.daemon message).parcel]
  rw [← hclient] at hopen hinbox
  exact ⟨(h.toSteady.leaving rest).ask _, hopen.trans h.isOpen, hinbox.trans h.heard⟩

theorem read_cons {request : ClientMessage} {rest : List ClientMessage}
    (hstage : scene.stage = .listening) (hrequests : scene.requests = request :: rest)
    (hread : scene.connection.inbox = .empty) :
    scene.read =
      { scene with
        toDesk := scene.toDesk.taking request rest
        queue := scene.queue ++ [(.observer, (Message.client request).parcel)] } := by
  rw [read, Desk.read_cons hstage hrequests hread]
  rfl

theorem read_idle (h : scene.stage = .listening → scene.requests = []) : scene.read = scene := by
  rw [read, Desk.read_idle h]
  exact congrArg (Scene.mk scene.toDesk · scene.client scene.surfaced) (List.append_nil _)

theorem reply_idle (h : ∀ replies, scene.stage ≠ .answering replies) : scene.reply = scene := by
  rw [reply, Desk.reply_idle h]

theorem reply_answering {replies : List DaemonMessage} (hstage : scene.stage = .answering replies) :
    scene.reply =
      { scene with stage := .listening, connection := scene.connection.reply replies } := by
  rw [reply, Desk.reply_answering hstage]

/-- The messages of the client that wait for the core. -/
def asked (scene : Scene σ) : List (Sender × Parcel) :=
  scene.queue.filter (·.1 = .observer)

theorem asked_observer {parcel : Parcel} {rest : List (Sender × Parcel)}
    (hqueue : scene.queue = (.observer, parcel) :: rest) :
    scene.asked = (.observer, parcel) :: rest.filter (·.1 = .observer) := by
  rw [asked, hqueue]
  rfl

theorem asked_other {parcel : Parcel} {rest : List (Sender × Parcel)}
    (hqueue : scene.queue = (.other, parcel) :: rest) :
    scene.asked = rest.filter (·.1 = .observer) := by
  rw [asked, hqueue]
  rfl

theorem asked_append {next : Scene σ} {more : List (Sender × Parcel)}
    (hqueue : next.queue = scene.queue ++ more) :
    next.asked = scene.asked ++ more.filter (·.1 = .observer) := by
  rw [asked, asked, hqueue, List.filter_append]

theorem execute_nil (hqueue : scene.queue = []) (engine : Engine σ) (now : String) :
    scene.execute engine now = scene := by
  rw [execute, hqueue]

theorem execute_observer {parcel : Parcel} {rest : List (Sender × Parcel)}
    (hqueue : scene.queue = (.observer, parcel) :: rest) (engine : Engine σ) (now : String) :
    scene.execute engine now =
      { scene with
        toDesk := scene.toDesk.takeUp engine now parcel
        queue := rest } := by
  rw [execute, hqueue]

theorem execute_other {parcel : Parcel} {rest : List (Sender × Parcel)}
    (hqueue : scene.queue = (.other, parcel) :: rest) (engine : Engine σ) (now : String) :
    scene.execute engine now =
      { scene with
        toDesk := scene.toDesk.carryOut engine now parcel
        queue := rest } := by
  rw [execute, hqueue]

theorem Steady.of_desk {next : Scene σ} (h : scene.Steady) (hdesk : next.toDesk.Steady)
    (hclient : next.client = scene.client) : next.Steady :=
  ⟨hdesk, hclient ▸ h.isOpen, hclient ▸ h.heard⟩

/-- Whatever step is taken, nothing half-done is left behind. -/
theorem Steady.act (h : scene.Steady) (engine : Engine σ) (act : Act) :
    (scene.act engine act).Steady := by
  have hdesk := h.toSteady
  cases act with
  | send parcel => exact h.of_desk hdesk rfl
  | execute now =>
    change (scene.execute engine now).Steady
    unfold execute
    split
    · exact h
    · exact h.of_desk (hdesk.takeUp _ _ _) rfl
    · exact h.of_desk (hdesk.carryOut _ _ _) rfl
  | poll => exact h.of_desk (hdesk.poll engine) rfl
  | read => exact h.of_desk hdesk.read_snd rfl
  | pass => exact h.of_desk hdesk.pass rfl
  | reply => exact h.of_desk hdesk.reply rfl
  | hear =>
    change scene.hear.Steady
    cases hwritten : scene.connection.written with
    | nil =>
      rw [hear_nil hwritten]
      exact h
    | cons message rest =>
      rw [hear_cons hwritten]
      exact h.heardNext

theorem Steady.play (h : scene.Steady) (engine : Engine σ) (acts : List Act) :
    (scene.play engine acts).Steady := by
  induction acts generalizing scene with
  | nil => exact h
  | cons act rest ih => exact ih (h.act engine act)

end Scene

section Steps

variable {scene next : Scene (Transcript σ)} {engine : Engine σ}

namespace Scene

def exchanges (scene : Scene (Transcript σ)) : List Exchange :=
  scene.service.core.controller.system.exchanges

def hops (scene : Scene (Transcript σ)) : Finset HopIndex :=
  scene.service.core.controller.chain.hops

theorem exchanges_prefix (hservice : next.service = scene.service) :
    scene.exchanges <+: next.exchanges := by
  rw [exchanges, exchanges, hservice]

/-- Whatever step is taken, calls are only added. -/
theorem exchanges_act (h : scene.Steady) (engine : Engine σ) (act : Act) :
    scene.exchanges <+: (scene.act engine.transcribed act).exchanges := by
  cases act with
  | send parcel => exact List.prefix_rfl
  | execute now =>
    change _ <+: (scene.execute engine.transcribed now).exchanges
    match hqueue : scene.queue with
    | [] => rw [execute_nil hqueue]
    | (.observer, parcel) :: rest =>
      obtain ⟨said, hannounces⟩ := Service.react_announces engine now parcel h.taken
      rw [execute_observer hqueue]
      exact hannounces.exchanges
    | (.other, parcel) :: rest =>
      obtain ⟨said, hannounces⟩ := Service.react_announces engine now parcel h.taken
      rw [execute_other hqueue]
      exact hannounces.exchanges
  | poll =>
    obtain ⟨said, hannounces⟩ := Service.poll_announces engine h.taken
    exact hannounces.exchanges
  | read => exact exchanges_prefix (Desk.service_read h.read)
  | pass => exact exchanges_prefix (Desk.service_pass _)
  | reply => exact exchanges_prefix (Desk.service_reply _)
  | hear =>
    change _ <+: scene.hear.exchanges
    cases hwritten : scene.connection.written with
    | nil => rw [hear_nil hwritten]
    | cons message rest =>
      rw [hear_cons hwritten]
      exact List.prefix_rfl

/-- A step over which the service may raise events, but nothing is asked or answered. -/
structure Continues (scene next : Scene (Transcript σ)) (said : List HopEvent) : Prop where
  stage : next.stage = scene.stage
  requests : next.requests = scene.requests
  asked : next.asked = scene.asked
  initializing : scene.Foretells [] .initializing → next.Foretells [] .initializing
  ready : ∀ events, scene.Foretells events .ready →
    next.Foretells (events ++ said.flatMap HopEvent.surfaced) .ready
  hops : said.foldl TunnelChain.hear scene.hops = next.hops

namespace Continues

theorem refl (scene : Scene (Transcript σ)) : Continues scene scene [] :=
  ⟨rfl, rfl, rfl, id, fun events h => by rwa [List.flatMap_nil, List.append_nil], rfl⟩

theorem of_announces {events : List DaemonMessage} {said : List HopEvent}
    (h : Service.Announces scene.service next.service events said) (hclean : Clean next.exchanges)
    (hsteady : scene.Steady) (hconnection : next.connection = scene.connection.notify events)
    (hmissed : next.connection.missed = 0) (hclient : next.client = scene.client)
    (hsurfaced : next.surfaced = scene.surfaced) (hstage : next.stage = scene.stage)
    (hrequests : next.requests = scene.requests) (hasked : next.asked = scene.asked) :
    Continues scene next said := by
  have hupcoming : next.connection.upcoming =
      scene.connection.upcoming ++ said.map HopEvent.toMessage := by
    rw [hconnection] at hmissed ⊢
    rw [Connection.upcoming_notify hsteady.subscribed hmissed, h.events]
  have hparcels :
      (said.map HopEvent.toMessage).map (fun message => (Message.daemon message).parcel) =
        said.map HopEvent.parcel := List.map_map
  refine ⟨hstage, hrequests, hasked, fun hforetells => ?_, fun events hforetells => ?_,
    h.hops hclean⟩
  · have hmore := Client.hearAll_initializing hforetells.phase said
    rw [← hparcels] at hmore
    exact hforetells.append hclient hsurfaced hupcoming hmore hforetells.phase
  · have hmore := Client.hearAll_ready hforetells.phase said
    rw [← hparcels] at hmore
    exact hforetells.append hclient hsurfaced hupcoming hmore hforetells.phase

theorem of_connection (hservice : next.service = scene.service)
    (hclient : next.client = scene.client) (hsurfaced : next.surfaced = scene.surfaced)
    (hstage : next.stage = scene.stage) (hrequests : next.requests = scene.requests)
    (hasked : next.asked = scene.asked)
    (hupcoming : next.connection.upcoming = scene.connection.upcoming) :
    Continues scene next [] where
  stage := hstage
  requests := hrequests
  asked := hasked
  initializing h := h.of_upcoming hclient hsurfaced hupcoming
  ready events h := by
    rw [List.flatMap_nil, List.append_nil]
    exact h.of_upcoming hclient hsurfaced hupcoming
  hops := congrArg (fun service : Service (Transcript σ) => service.core.controller.chain.hops)
    hservice.symm

theorem send (parcel : Parcel) :
    Continues scene (scene.act engine.transcribed (.send parcel)) [] := by
  refine of_connection rfl rfl rfl rfl rfl ?_ rfl
  exact (asked_append rfl).trans (List.append_nil _)

theorem pass (scene : Scene (Transcript σ)) : Continues scene scene.pass [] :=
  of_connection scene.toDesk.service_pass rfl rfl scene.toDesk.stage_pass
    scene.toDesk.requests_pass rfl scene.toDesk.upcoming_pass

theorem execute_other {now : String} {parcel : Parcel} {rest : List (Sender × Parcel)}
    (hqueue : scene.queue = (.other, parcel) :: rest) (hsteady : scene.Steady)
    (hclean : Clean (scene.execute engine.transcribed now).exchanges)
    (hmissed : (scene.execute engine.transcribed now).connection.missed = 0) :
    ∃ said, Continues scene (scene.execute engine.transcribed now) said := by
  obtain ⟨said, h⟩ := Service.react_announces engine now parcel hsteady.taken
  rw [Scene.execute_other hqueue] at hclean hmissed ⊢
  exact ⟨said, of_announces h hclean hsteady rfl hmissed rfl rfl rfl rfl (asked_other hqueue).symm⟩

theorem poll (hsteady : scene.Steady)
    (hclean : Clean (scene.poll engine.transcribed).exchanges)
    (hmissed : (scene.poll engine.transcribed).connection.missed = 0) :
    ∃ said, Continues scene (scene.poll engine.transcribed) said := by
  obtain ⟨said, h⟩ := Service.poll_announces engine hsteady.taken
  exact ⟨said, of_announces h hclean hsteady rfl hmissed rfl rfl rfl rfl rfl⟩

theorem heardNext {message : DaemonMessage} {rest : List DaemonMessage}
    {events : List SessionEvent} {phase : Phase} (hforetells : scene.Foretells events phase)
    (hsteady : scene.Steady) (hwritten : scene.connection.written = message :: rest) :
    Continues scene (scene.heardNext message rest) [] := by
  refine ⟨rfl, (hforetells.heardNext hsteady hwritten).2, rfl,
    fun h => (h.heardNext hsteady hwritten).1, fun events h => ?_, rfl⟩
  rw [List.flatMap_nil, List.append_nil]
  exact (h.heardNext hsteady hwritten).1

end Continues

end Scene

end Steps

end TunnelChain
