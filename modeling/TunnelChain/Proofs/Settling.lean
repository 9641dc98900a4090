import Mathlib.Data.List.Infix
import TunnelChain.Proofs.Ordering

/-!
# A connection comes to rest

Left to itself a connection's task does what is still to be done, and then waits. So what is handled
in one go, message by message, is one way in which the task can go; and what is written in the end,
where nobody else does anything, depends on the bytes that have arrived and not on their chunks.
-/

namespace TunnelChain

variable {σ : Type}

namespace Serving

/-- Whether a step is the task's own and takes nothing in. -/
def Act.isOwn : Act σ → Bool
  | .disturb _ => false
  | .read _ => false
  | _ => true

/-- What there is, between two lines. -/
structure Stands (serving : Serving σ) (state : σ) (connection : Connection) (waiting : List Parcel)
    (duty : Duty σ) : Prop where
  state : serving.state = state
  connection : serving.connection = connection
  waiting : serving.waiting = waiting
  duty : serving.duty = duty
  clear : serving.outgoing = []

variable {handler : String → Parcel → Handling σ} {serving : Serving σ} {state state' : σ}
  {connection connection' : Connection} {waiting waiting' : List Parcel} {duty duty' : Duty σ}

/-- Whether some own steps lead the task to where there is just this. -/
def Leads (handler : String → Parcel → Handling σ) (serving : Serving σ) (state : σ)
    (connection : Connection) (waiting : List Parcel) (duty : Duty σ) : Prop :=
  ∃ own : List (Act σ), (∀ act ∈ own, act.isOwn = true) ∧
    (serving.play handler own).Stands state connection waiting duty

theorem Stands.leads (h : serving.Stands state connection waiting duty) :
    serving.Leads handler state connection waiting duty :=
  ⟨[], List.forall_mem_nil _, h⟩

theorem Leads.trans (h : serving.Leads handler state connection waiting duty)
    (hnext : ∀ later : Serving σ, later.Stands state connection waiting duty →
      later.Leads handler state' connection' waiting' duty') :
    serving.Leads handler state' connection' waiting' duty' := by
  obtain ⟨own, hown, hstands⟩ := h
  obtain ⟨more, hmore, hstands'⟩ := hnext _ hstands
  refine ⟨own ++ more, List.forall_mem_append.mpr ⟨hown, hmore⟩, ?_⟩
  rw [play, List.foldl_append]
  exact hstands'

theorem Leads.of_act {act : Act σ} (hown : act.isOwn = true)
    (h : (serving.act handler act).Stands state connection waiting duty) :
    serving.Leads handler state connection waiting duty :=
  ⟨[act], List.forall_mem_singleton.mpr hown, h⟩

/-- A message that is posted is sent before anything else. -/
theorem Leads.of_post {act : Act σ} {posted : Serving σ} {message : DaemonMessage}
    (hown : act.isOwn = true) (hact : serving.act handler act = posted.post message)
    (hstate : posted.state = state) (hconnection : posted.connection.write message = connection)
    (hwaiting : posted.waiting = waiting) (hduty : posted.duty = duty) :
    serving.Leads handler state connection waiting duty := by
  refine ⟨[act, .transmit message.encode.length],
    List.forall_mem_cons.mpr ⟨hown, List.forall_mem_singleton.mpr rfl⟩, ?_⟩
  change (((serving.act handler act)).transmit message.encode.length).Stands _ _ _ _
  rw [hact]
  exact ⟨hstate, hconnection, hwaiting, hduty, List.drop_length⟩

/-- Whether the task may pass on events. -/
def Relays (waiting : List Parcel) (duty : Duty σ) : Prop :=
  (∃ replies, duty = .flushing replies) ∨ (duty = .writing [] ∧ waiting = [])

theorem Stands.isRelaying (h : serving.Stands state connection waiting duty)
    (hrelays : Relays waiting duty) : serving.isRelaying = true := by
  obtain ⟨replies, hflushing⟩ | ⟨hfree, hnone⟩ := hrelays
  · simp [Serving.isRelaying, h.duty, hflushing, h.clear]
  · simp [Serving.isRelaying, isListening, h.duty, hfree, h.waiting, hnone, h.clear, Duty.isFree]

/-- The next event is passed on, where none was missed before it. -/
theorem Stands.relay_event (h : serving.Stands state connection waiting duty)
    (hrelays : Relays waiting duty) {event : DaemonMessage} {rest : List DaemonMessage}
    (hbacklog : connection.backlog = some ⟨0, event :: rest⟩) :
    serving.Leads handler state
      ({ connection with backlog := some ⟨0, rest⟩ }.write event) waiting duty := by
  have hnext : serving.connection.nextEvent =
      (some event, { connection with backlog := some ⟨0, rest⟩ }) := by
    rw [h.connection, Connection.nextEvent, hbacklog]
  have hrelay : serving.act handler .relay =
      { serving with connection := { connection with backlog := some ⟨0, rest⟩ } }.post event := by
    change serving.relay = _
    rw [relay, if_pos (h.isRelaying hrelays), hnext]
  exact Leads.of_post rfl hrelay h.state rfl h.waiting h.duty

/-- It is noted that events were missed before the next. -/
theorem Stands.relay_missed (h : serving.Stands state connection waiting duty)
    (hrelays : Relays waiting duty) {missed : Nat} {events : List DaemonMessage}
    (hbacklog : connection.backlog = some ⟨missed + 1, events⟩) :
    serving.Leads handler state
      ({ connection with backlog := some ⟨0, events⟩ }.note .warn
        ("Event stream lagged, missed " ++ toString (missed + 1) ++ " events")) waiting duty := by
  have hnext : serving.connection.nextEvent =
      (none, { connection with backlog := some ⟨0, events⟩ }.note .warn
        ("Event stream lagged, missed " ++ toString (missed + 1) ++ " events")) := by
    rw [h.connection, Connection.nextEvent, hbacklog]
  refine Leads.of_act rfl (?_ : (serving.act handler .relay).Stands _ _ _ _)
  change serving.relay.Stands _ _ _ _
  rw [relay, if_pos (h.isRelaying hrelays), hnext]
  exact ⟨h.state, rfl, h.waiting, h.duty, h.clear⟩

theorem Stands.relay_events (h : serving.Stands state connection waiting duty)
    (hrelays : Relays waiting duty) {events : List DaemonMessage}
    (hbacklog : connection.backlog = some ⟨0, events⟩) :
    serving.Leads handler state ({ connection with backlog := some .empty }.writeAll events) waiting
      duty := by
  induction events generalizing serving connection with
  | nil =>
    have hsame : { connection with backlog := some .empty } = connection := by
      rw [Backlog.empty, ← hbacklog]
    rw [hsame]
    exact h.leads
  | cons event rest ih =>
    exact (h.relay_event hrelays hbacklog).trans fun later hlater => ih hlater rfl

theorem Stands.flush (h : serving.Stands state connection waiting duty)
    (hrelays : Relays waiting duty) :
    serving.Leads handler state connection.flush waiting duty := by
  unfold Connection.flush
  cases hbacklog : connection.backlog with
  | none => exact h.leads
  | some backlog =>
    obtain ⟨missed, events⟩ := backlog
    cases missed with
    | zero => exact h.relay_events hrelays hbacklog
    | succ missed =>
      exact (h.relay_missed hrelays hbacklog).trans fun later hlater =>
        hlater.relay_events hrelays rfl

theorem Stands.write_replies {replies : List DaemonMessage}
    (h : serving.Stands state connection waiting (.writing replies)) :
    serving.Leads handler state (connection.writeAll replies) waiting (.writing []) := by
  induction replies generalizing serving connection with
  | nil => exact h.leads
  | cons reply rest ih =>
    have hwrite : serving.act handler .write =
        { serving with duty := .writing rest }.post reply := by
      change serving.write = _
      unfold write
      rw [h.duty]
      simp [h.clear]
    have hconnection : serving.connection.write reply = connection.write reply := by
      rw [h.connection]
    have hposted := Leads.of_post rfl hwrite h.state hconnection h.waiting rfl
    exact hposted.trans fun later hlater => ih hlater

theorem Stands.reply {replies : List DaemonMessage}
    (h : serving.Stands state connection waiting (.flushing replies)) :
    serving.Leads handler state (connection.reply replies) waiting (.writing []) := by
  refine (h.flush (.inl ⟨replies, rfl⟩)).trans fun later hlater => ?_
  have hrest : later.connection.unpassed = [] ∧ later.connection.missed = 0 := by
    rw [hlater.connection, Connection.unpassed, Connection.missed, connection.backlog_flush]
    cases connection.backlog <;> exact ⟨rfl, rfl⟩
  have hturn : (later.act handler .turn).Stands state connection.flush waiting
      (.writing replies) := by
    have hturned : later.act handler .turn = { later with duty := .writing replies } := by
      change later.turn = _
      unfold turn
      rw [hlater.duty]
      simp [hrest, hlater.clear]
    rw [hturned]
    exact ⟨hlater.state, hlater.connection, hlater.waiting, rfl, hlater.clear⟩
  exact (Leads.of_act rfl hturn).trans fun last hlast => hlast.write_replies

/-- What a task does with a message, as long as nobody disturbs. -/
theorem Stands.finish {parcel : Parcel} {step : σ → List DaemonMessage × σ} {next : σ → Handling σ}
    (h : serving.Stands state connection waiting (.handling parcel step next)) :
    serving.Leads handler ((Handling.proceed step next).finish state).state
      (connection.notify ((Handling.proceed step next).finish state).events) waiting
      (.flushing ((Handling.proceed step next).finish state).replies) := by
  generalize hrest : Handling.proceed step next = rest
  induction rest generalizing serving state connection step next with
  | answer replies => cases hrest
  | proceed step' next' ih =>
    obtain ⟨rfl, rfl⟩ := Handling.proceed.inj hrest
    have hproceed : serving.act handler .proceed =
        (serving.disturb step).follow parcel (next state) := by
      change serving.proceed = _
      unfold proceed
      rw [h.duty, ← h.state]
    have hnotified : (serving.disturb step).connection = connection.notify (step state).1 := by
      rw [← h.connection, ← h.state]
      rfl
    have hstate : (serving.disturb step).state = (step state).2 := by
      rw [← h.state]
      rfl
    cases hnext : next state with
    | answer replies =>
      rw [hnext] at hproceed
      have hstands : (serving.act handler .proceed).Stands (step state).2
          (connection.notify (step state).1) waiting (.flushing replies) := by
        rw [hproceed]
        exact ⟨hstate, hnotified, h.waiting, rfl, h.clear⟩
      rw [Handling.finish, hnext, Handling.finish, List.append_nil]
      exact Leads.of_act rfl hstands
    | proceed later after =>
      rw [hnext] at hproceed
      have hstands : (serving.act handler .proceed).Stands (step state).2
          (connection.notify (step state).1) waiting (.handling parcel later after) := by
        rw [hproceed]
        exact ⟨hstate, hnotified, h.waiting, rfl, h.clear⟩
      have hleads := (Leads.of_act rfl hstands).trans fun last hlast =>
        ih state hlast hnext.symm
      rw [hnext, Connection.notify_notify] at hleads
      rw [Handling.finish, hnext]
      exact hleads

/-- A message that is taken up is handled to its end, as long as nobody disturbs. -/
theorem Stands.take {parcel : Parcel} (now : String)
    (h : serving.Stands state connection (parcel :: waiting) (.writing [])) :
    serving.Leads handler ((handler now parcel).finish state).state
      (connection.notify ((handler now parcel).finish state).events) waiting
      (.flushing ((handler now parcel).finish state).replies) := by
  have htake : serving.act handler (.take now) =
      { serving with waiting }.follow parcel (handler now parcel) := by
    change serving.take (handler now) = _
    unfold Serving.take
    rw [h.waiting, h.duty, h.clear]
    rfl
  cases hhandling : handler now parcel with
  | answer replies =>
    rw [hhandling] at htake
    have hstands : (serving.act handler (.take now)).Stands state connection waiting
        (.flushing replies) := by
      rw [htake]
      exact ⟨h.state, h.connection, rfl, rfl, h.clear⟩
    rw [Handling.finish, Connection.notify_nil]
    exact Leads.of_act rfl hstands
  | proceed step next =>
    rw [hhandling] at htake
    have hstands : (serving.act handler (.take now)).Stands state connection waiting
        (.handling parcel step next) := by
      rw [htake]
      exact ⟨h.state, h.connection, rfl, rfl, h.clear⟩
    exact (Leads.of_act rfl hstands).trans fun later hlater => hlater.finish

theorem Stands.handle {parcel : Parcel} (now : String)
    (h : serving.Stands state connection (parcel :: waiting) (.writing [])) :
    serving.Leads handler ((handler now parcel).finish state).state
      ((connection.notify ((handler now parcel).finish state).events).reply
        ((handler now parcel).finish state).replies) waiting (.writing []) :=
  (h.take now).trans fun _ hlater => hlater.reply

theorem Stands.exists_free (h : serving.Stands state connection waiting duty) :
    ∃ state' connection', serving.Leads handler state' connection' waiting (.writing []) := by
  cases duty with
  | handling parcel step next =>
    exact ⟨_, _, h.finish.trans fun later hlater => hlater.reply⟩
  | flushing replies => exact ⟨_, _, h.reply⟩
  | writing replies => exact ⟨_, _, h.write_replies⟩

/-- A message handled in one go: the connection is told of the events, and then answered. -/
def handleAtOnce (handler : Parcel → Handling σ) (at_ : σ × Connection) (parcel : Parcel) :
    σ × Connection :=
  let reaction := (handler parcel).finish at_.1
  (reaction.state, (at_.2.notify reaction.events).reply reaction.replies)

theorem Stands.handle_waiting (now : String)
    (h : serving.Stands state connection waiting (.writing [])) :
    serving.Leads handler (waiting.foldl (handleAtOnce (handler now)) (state, connection)).1
      (waiting.foldl (handleAtOnce (handler now)) (state, connection)).2 [] (.writing []) := by
  induction waiting generalizing serving state connection with
  | nil => exact h.leads
  | cons parcel rest ih => exact (h.handle now).trans fun later hlater => ih hlater

/-- Whether the task has nothing left to do but to wait for an event or a chunk. -/
structure Settled (serving : Serving σ) : Prop where
  duty : serving.duty = .writing []
  waiting : serving.waiting = []
  outgoing : serving.outgoing = []
  unpassed : serving.connection.unpassed = []

theorem Leads.settles (h : serving.Leads handler state connection waiting (.writing [])) :
    ∃ own : List (Act σ), (∀ act ∈ own, act.isOwn = true) ∧ (serving.play handler own).Settled := by
  have hidle := h.trans fun later hlater => hlater.handle_waiting ""
  obtain ⟨own, hown, hstands⟩ := hidle.trans fun later hlater => hlater.flush (.inr ⟨rfl, rfl⟩)
  refine ⟨own, hown, hstands.duty, hstands.waiting, hstands.clear, ?_⟩
  rw [hstands.connection, Connection.unpassed, Connection.backlog_flush]
  cases Connection.backlog _ <;> rfl

/-- **Progress.** Whatever the task is at, its own steps bring it to rest. -/
theorem exists_settled (handler : String → Parcel → Handling σ) (serving : Serving σ) :
    ∃ own : List (Act σ), (∀ act ∈ own, act.isOwn = true) ∧ (serving.play handler own).Settled := by
  have hsent : (serving.act handler (.transmit serving.outgoing.length)).Stands serving.state
      serving.connection serving.waiting serving.duty := ⟨rfl, rfl, rfl, rfl, List.drop_length⟩
  obtain ⟨state, connection, hfree⟩ := hsent.exists_free
  obtain ⟨own, hown, hsettled⟩ := hfree.settles
  exact ⟨.transmit serving.outgoing.length :: own, List.forall_mem_cons.mpr ⟨rfl, hown⟩, hsettled⟩

/-! ## Messages handled in one go -/

theorem foldl_react (handler : Handler σ) (name : String) (received : List Parcel)
    (board : Switchboard σ) (hconnection : board.connections.get? name = some connection) :
    (received.foldl (Switchboard.react handler name) board).state =
        (received.foldl (handleAtOnce (Handling.ofHandler handler)) (board.state, connection)).1 ∧
      (received.foldl (Switchboard.react handler name) board).connections.get? name =
        some (received.foldl (handleAtOnce (Handling.ofHandler handler))
          (board.state, connection)).2 := by
  induction received generalizing board connection with
  | nil => exact ⟨rfl, hconnection⟩
  | cons parcel rest ih =>
    have hreacted : (board.react handler name parcel).connections.get? name =
        some ((connection.notify (handler parcel board.state).events).reply
          (handler parcel board.state).replies) := by
      rw [Switchboard.get?_react, hconnection, Option.map_some, if_pos rfl]
    rw [List.foldl_cons, List.foldl_cons, handleAtOnce, Handling.finish_ofHandler]
    exact ih _ hreacted

/-- What a switchboard makes of a chunk is one way in which the task of the connection can take
it. -/
theorem receive_leads (handler : Handler σ) {board : Switchboard σ} {name : String}
    (hconnection : board.connections.get? name = some connection)
    (h : serving.Stands board.state connection [] (.writing [])) (chunk : Bytes) :
    ∃ after, (board.receive handler name chunk).connections.get? name = some after ∧
      (serving.read chunk).Leads (fun _ => Handling.ofHandler handler)
        (board.receive handler name chunk).state after [] (.writing []) := by
  have hlistening : serving.isListening = true := by
    simp [isListening, h.duty, h.waiting, h.clear, Duty.isFree]
  let heard : Connection :=
    { connection with
      inbox := (connection.inbox.feed chunk).2
      log := connection.log ++ (connection.inbox.feed chunk).1.flatMap (·.log) }
  have hread : (serving.read chunk).Stands board.state heard
      (parcels (connection.inbox.feed chunk).1) (.writing []) := by
    unfold read
    rw [if_pos hlistening, h.connection]
    exact ⟨h.state, rfl, rfl, h.duty, h.clear⟩
  have hheard : (board.connections.insert name heard).get? name = some heard := by
    rw [Table.get?_insert, if_pos rfl]
  have hreceive : board.receive handler name chunk =
      (parcels (connection.inbox.feed chunk).1).foldl (Switchboard.react handler name)
        { board with connections := board.connections.insert name heard } := by
    unfold Switchboard.receive
    rw [hconnection]
  obtain ⟨hstate, hafter⟩ := foldl_react handler name (parcels (connection.inbox.feed chunk).1)
    { board with connections := board.connections.insert name heard } hheard
  rw [hreceive]
  refine ⟨_, hafter, ?_⟩
  rw [hstate]
  exact hread.handle_waiting ""

/-! ## Undisturbed runs -/

/-- What is told of some messages that are handled one after another: of each the events, and then
the replies to it. -/
def told (handler : Parcel → Handling σ) : σ → List Parcel → List DaemonMessage
  | _, [] => []
  | state, parcel :: rest =>
    let reaction := (handler parcel).finish state
    reaction.events ++ reaction.replies ++ told handler reaction.state rest

/-- What is still to be told if nobody disturbs, where more messages follow the one in hand. -/
def forecast (handler : Parcel → Handling σ) (serving : Serving σ) (more : List Parcel) :
    List DaemonMessage :=
  match serving.duty.remaining with
  | some rest =>
    let reaction := rest.finish serving.state
    reaction.events ++ reaction.replies ++ told handler reaction.state more
  | none => told handler serving.state more

/-- Whether a step is one of the task, which takes messages up at one time only. -/
def Act.isAlone (now : String) : Act σ → Bool
  | .disturb _ => false
  | .take time => time = now
  | _ => true

/-- Whether the output and what is still to be told are what is told of all messages that have
arrived, however many follow. -/
structure Foreseen (handler : Parcel → Handling σ) (first : σ) (serving : Serving σ) : Prop where
  subscribed : serving.connection.backlog.isSome = true
  pending : serving.connection.inbox.pending = openLine serving.received
  told : ∀ more, told handler first (parcelsOf (completeLines serving.received) ++ more) =
    serving.output ++ serving.forecast handler (serving.waiting ++ more)

variable {first : σ} {next : Serving σ} {act : Act σ} {now : String}

theorem Quiet.forecast (hquiet : Quiet serving next) (handler : Parcel → Handling σ)
    (more : List Parcel) : next.forecast handler more = serving.forecast handler more := by
  rw [Serving.forecast, Serving.forecast, hquiet.remaining, hquiet.state]

/-- Going on with a message tells its replies once there are any. -/
theorem output_follow (serving : Serving σ) (hduty : ∀ events, serving.duty.arrange events = events)
    (parcel : Parcel) (rest : Handling σ) (handler : Parcel → Handling σ) (more : List Parcel) :
    (serving.follow parcel rest).output ++ (serving.follow parcel rest).forecast handler more =
      serving.output ++
        ((rest.finish serving.state).events ++ (rest.finish serving.state).replies ++
        Serving.told handler (rest.finish serving.state).state more) := by
  cases rest with
  | answer replies =>
    rw [output_follow_answer serving hduty]
    simp [Handling.finish, forecast, Serving.follow, Duty.remaining]
  | proceed step next =>
    rw [output, output, hduty]
    rfl

theorem Foreseen.of_quiet (h : serving.Foreseen (handler now) first) (hquiet : Quiet serving next)
    (hpending : next.connection.inbox.pending = serving.connection.inbox.pending)
    (hwaiting : next.waiting = serving.waiting) (hreceived : next.received = serving.received) :
    next.Foreseen (handler now) first := by
  refine ⟨hquiet.subscribed.trans h.subscribed, ?_, fun more => ?_⟩
  · rw [hpending, hreceived]
    exact h.pending
  · rw [hreceived, hwaiting, hquiet.output, hquiet.forecast]
    exact h.told more

theorem Foreseen.follow (serving : Serving σ)
    (harrange : ∀ events, serving.duty.arrange events = events)
    (hsubscribed : serving.connection.backlog.isSome = true)
    (hpending : serving.connection.inbox.pending = openLine serving.received) (rest : Handling σ)
    (htold : ∀ more,
      Serving.told (handler now) first (parcelsOf (completeLines serving.received) ++ more) =
        serving.output ++
          ((rest.finish serving.state).events ++ (rest.finish serving.state).replies ++
          Serving.told (handler now) (rest.finish serving.state).state (serving.waiting ++ more)))
    (parcel : Parcel) : (serving.follow parcel rest).Foreseen (handler now) first := by
  refine ⟨?_, ?_, fun more => ?_⟩
  · rw [connection_follow]
    exact hsubscribed
  · rw [connection_follow, received_follow]
    exact hpending
  · rw [waiting_follow, received_follow, output_follow serving harrange]
    exact htold more

theorem Foreseen.step (h : serving.Foreseen (handler now) first)
    (hstep : Step handler serving act next) (halone : act.isAlone now = true)
    (hmissed : serving.connection.missed = 0) (hmissed' : next.connection.missed = 0) :
    next.Foreseen (handler now) first := by
  obtain ⟨-, hinbox, -⟩ := serving.connection.nextEvent_kept
  have hquiet (hquiet : act.isQuiet = true) : Quiet serving next := hstep.quiet hquiet hmissed
  cases hstep with
  | idle _ => exact h
  | disturbed change => cases halone
  | read chunk hduty hwaiting =>
    obtain ⟨completed, hlines, -, hreceipts, hpending⟩ := Inbox.feed_law h.pending chunk
    refine ⟨h.subscribed, hpending, fun more => ?_⟩
    have htold := h.told (parcels (serving.connection.inbox.feed chunk).1 ++ more)
    rw [hwaiting, List.nil_append] at htold
    rw [hlines, (hquiet rfl).output, (hquiet rfl).forecast, ← htold, hreceipts, parcels_map_receive]
    simp [parcelsOf]
  | @taken parcel rest time hduty hwaiting =>
    obtain rfl : time = now := of_decide_eq_true halone
    refine Foreseen.follow { serving with waiting := rest } ?_ h.subscribed h.pending _ ?_ parcel
    · intro events
      change serving.duty.arrange events = events
      rw [hduty]
      rfl
    · intro more
      have htold := h.told more
      rw [forecast, hduty, hwaiting] at htold
      exact htold
  | @proceeded parcel step next hduty =>
    rw [connection_follow] at hmissed'
    have harrange (events : List DaemonMessage) : serving.duty.arrange events = events := by
      rw [hduty]
      rfl
    have houtput := output_disturb_eq_append harrange h.subscribed hmissed'
    refine Foreseen.follow (serving.disturb step) harrange
      ((Connection.isSome_notify _ _).trans h.subscribed) h.pending _ ?_ parcel
    intro more
    have htold := h.told more
    rw [forecast, hduty] at htold
    rw [houtput]
    simpa [Duty.remaining, Handling.finish, Serving.disturb, Serving.raise] using htold
  | @passed event connection _ _ hnext =>
    rw [hnext] at hinbox
    exact h.of_quiet (hquiet rfl) (congrArg Inbox.pending hinbox) rfl rfl
  | @lagged connection hnext =>
    rw [hnext] at hinbox
    exact h.of_quiet (hquiet rfl) (congrArg Inbox.pending hinbox) rfl rfl
  | turned _ _ => exact h.of_quiet (hquiet rfl) rfl rfl rfl
  | written _ _ => exact h.of_quiet (hquiet rfl) rfl rfl rfl
  | transmitted _ => exact h.of_quiet (hquiet rfl) rfl rfl rfl

theorem KeepsUp.foreseen {acts : List (Act σ)} (h : KeepsUp handler first acts)
    (halone : ∀ act ∈ acts, act.isAlone now = true) :
    ((start first).play handler acts).Foreseen (handler now) first :=
  h.invariant halone ⟨rfl, rfl, fun _ => rfl⟩
    fun hforeseen halone hstep hmissed hmissed' => hforeseen.step hstep halone hmissed hmissed'

theorem Settled.output_eq (h : serving.Settled) :
    serving.output = serving.connection.written := by
  rw [output, h.duty, h.unpassed]
  exact List.append_nil _

theorem Settled.forecast_eq (h : serving.Settled) (handler : Parcel → Handling σ) :
    serving.forecast handler (serving.waiting ++ []) = [] := by
  rw [forecast, h.duty, h.waiting]
  rfl

/-! ## What a peer can rely on -/

/-- What a peer can rely on in a run. -/
structure Reliable (handler : String → Parcel → Handling σ) (first : σ) (acts : List (Act σ))
    (run : Serving σ) : Prop where
  framed : run.handled.map Handled.parcel ++ run.duty.parcels ++ run.waiting =
    parcelsOf (completeLines run.received)
  arranged : ∃ blocks late, run.Arranged blocks late
  split : ∀ earlier handled later, run.handled = earlier ++ handled :: later →
    ∃ before after, run.output = before ++ handled.replies ++ after ∧
      (earlier.flatMap Handled.replies).Sublist before ∧ handled.raised.Sublist before
  written : run.connection.written <+: run.output
  wired : run.sent ++ run.outgoing = wire run.connection.written
  lines : completeLines run.sent <+:
    run.connection.written.map fun message => (Message.daemon message).line
  settled : run.Settled → run.connection.written = run.output ∧ run.sent = wire run.output ∧
    run.handled.map Handled.parcel = parcelsOf (completeLines run.received)
  settles : ∃ own : List (Act σ), (∀ act ∈ own, act.isOwn = true) ∧ (run.play handler own).Settled
  undisturbed : ∀ now, (∀ act ∈ acts, act.isAlone now = true) → run.Settled →
    run.connection.written = told (handler now) first (parcelsOf (completeLines run.received))

/-- **Order of a connection's output.** Whatever the handler, the bytes, their chunks and what
others do meanwhile, as long as the connection keeps up with the events: the messages of the
complete lines are handled in turn, and the output is for each the events until then and its replies
together, with every event once and in the order raised; it leaves line by line, completely in the
end, and without others it depends on the bytes alone. -/
theorem reliable_play {acts : List (Act σ)} (h : KeepsUp handler first acts) :
    Reliable handler first acts ((start first).play handler acts) := by
  have hframed := framed_play handler first acts
  have hwired := wired_play handler first acts
  obtain ⟨blocks, late, harranged, -⟩ := h.inOrder.arranged
  refine
    { framed := hframed.parcels
      arranged := ⟨blocks, late, harranged⟩
      split := fun earlier handled later hhandled => harranged.split hhandled
      written := List.prefix_append _ _
      wired := hwired
      lines := hwired.completeLines_sent
      settled := fun hsettled => ⟨hsettled.output_eq.symm, ?_, ?_⟩
      settles := exists_settled handler _
      undisturbed := fun now halone hsettled => ?_ }
  · rw [hsettled.output_eq, ← hwired, hsettled.outgoing, List.append_nil]
  · have hparcels := hframed.parcels
    rw [hsettled.duty, hsettled.waiting] at hparcels
    simpa [Duty.parcels] using hparcels
  · have htold := (h.foreseen halone).told []
    rw [hsettled.forecast_eq, hsettled.output_eq] at htold
    simpa using htold.symm

/-- A handler that raises an event for each message and then answers with its kind. -/
def echo (_ : String) (parcel : Parcel) : Handling Unit :=
  .proceed (fun _ => ([.connected 7], ())) fun _ => .answer [.logs parcel.kind]

/-- Two messages arrive in two chunks, the first of which ends within the first message; others
raise an event before that message is taken up, and one while it is handled. -/
def splitMessages : List (Act Unit) :=
  let stream := ClientMessage.status.encode ++ ClientMessage.version.encode
  let raises (hop : HopIndex) : Act Unit := .disturb fun _ => ([.disconnected hop], ())
  [.read (stream.take 5), raises 1, .relay, .transmit 99, .read (stream.drop 5), .take "", raises 2,
    .proceed, .relay, .transmit 99, .relay, .transmit 7, .transmit 99, .turn, .write, .transmit 99,
    .take "", .proceed, .relay, .transmit 99, .turn, .write, .transmit 99]

theorem reliable_splitMessages :
    ((start ()).play echo splitMessages).connection.written =
        [.disconnected 1, .disconnected 2, .connected 7, .logs "status", .connected 7,
          .logs "version"] ∧
      Reliable echo () splitMessages ((start ()).play echo splitMessages) := by
  have hkeeps : KeepsUp echo () splitMessages := by
    unfold KeepsUp
    simp only [← List.mem_inits]
    decide +kernel
  exact ⟨by decide +kernel, reliable_play hkeeps⟩

end Serving

end TunnelChain
