import TunnelChain.Proofs.Delivery
import TunnelChain.Proofs.Transport

/-!
# Serving a connection

One task serves a connection. It reads chunks, has the messages in them handled one by one, and
writes events and replies, each as a line whose bytes leave in any portions. A message may take its
handler many steps, and between any two steps of the task others may change the state and raise
events.
-/

namespace TunnelChain

variable {σ : Type}

/-- How a message is handled: steps that change the state and raise events, and at last the
replies. -/
inductive Handling (σ : Type) where
  | answer (replies : List DaemonMessage)
  | proceed (step : σ → List DaemonMessage × σ) (next : σ → Handling σ)

namespace Handling

/-- What a handling comes to when nothing else happens meanwhile. -/
def finish : Handling σ → σ → Reaction σ
  | .answer replies, state => ⟨replies, [], state⟩
  | .proceed step next, state =>
    let later := (next state).finish (step state).2
    ⟨later.replies, (step state).1 ++ later.events, later.state⟩

/-- The handling in which all happens at once. -/
def ofHandler (handler : Handler σ) (parcel : Parcel) : Handling σ :=
  .proceed (fun state => ((handler parcel state).events, (handler parcel state).state))
    fun state => .answer (handler parcel state).replies

theorem finish_ofHandler (handler : Handler σ) (parcel : Parcel) (state : σ) :
    (ofHandler handler parcel).finish state = handler parcel state := by
  simp [finish, ofHandler]

end Handling

/-- What a connection's task is doing: it has a message handled, passes on events before the replies
to it, or writes what is left of the replies. -/
inductive Duty (σ : Type) where
  | handling (parcel : Parcel) (step : σ → List DaemonMessage × σ) (next : σ → Handling σ)
  | flushing (replies : List DaemonMessage)
  | writing (replies : List DaemonMessage)

namespace Duty

/-- Whether the task can take up the next message. -/
def isFree : Duty σ → Bool
  | .writing [] => true
  | _ => false

def parcels : Duty σ → List Parcel
  | .handling parcel _ _ => [parcel]
  | _ => []

/-- What is left of the handling of a message. -/
def remaining : Duty σ → Option (Handling σ)
  | .handling _ step next => some (.proceed step next)
  | _ => none

/-- The order in which the events to pass on and the replies in hand will be written. -/
def arrange (events : List DaemonMessage) : Duty σ → List DaemonMessage
  | .handling _ _ _ => events
  | .flushing replies => events ++ replies
  | .writing replies => replies ++ events

theorem eq_of_isFree {duty : Duty σ} (h : duty.isFree = true) : duty = .writing [] := by
  unfold isFree at h
  split at h
  · rfl
  · cases h

end Duty

/-- A message that has been handled, the replies to it, and all events raised by then. -/
structure Handled where
  parcel : Parcel
  replies : List DaemonMessage
  raised : List DaemonMessage

/-- A connection and the state behind it: the messages read but not taken up, what the task is
doing, and the rest of the line being sent. For the record, the bytes that have arrived and left,
the events raised, and the messages handled. -/
structure Serving (σ : Type) where
  state : σ
  connection : Connection
  waiting : List Parcel
  duty : Duty σ
  outgoing : Bytes
  received : Bytes
  sent : Bytes
  raised : List DaemonMessage
  handled : List Handled

namespace Connection

/-- The events that have not been passed on. -/
def unpassed (connection : Connection) : List DaemonMessage :=
  (connection.backlog.map (·.events)).getD []

/-- Takes the next event, or notes how many were missed before it. -/
def nextEvent (connection : Connection) : Option DaemonMessage × Connection :=
  match connection.backlog with
  | some ⟨0, event :: rest⟩ => (some event, { connection with backlog := some ⟨0, rest⟩ })
  | some ⟨missed + 1, events⟩ =>
    (none, { connection with backlog := some ⟨0, events⟩ }.note .warn
      ("Event stream lagged, missed " ++ toString (missed + 1) ++ " events"))
  | _ => (none, connection)

end Connection

namespace Serving

/-- A step of the task, or of someone else: others change the state and raise events; the task reads
a chunk, takes up a message, has a step of its handling done, passes on an event, turns to the
replies when no event is left, writes a reply, or sends some bytes of a line. -/
inductive Act (σ : Type) where
  | disturb (change : σ → List DaemonMessage × σ)
  | read (chunk : Bytes)
  | take (now : String)
  | proceed
  | relay
  | turn
  | write
  | transmit (count : Nat)

/-- A peer has just connected, and is told of events from now on. -/
def start (state : σ) : Serving σ :=
  ⟨state, .accept true, [], .writing [], [], [], [], [], []⟩

def raise (serving : Serving σ) (events : List DaemonMessage) : Serving σ :=
  { serving with
    connection := serving.connection.notify events
    raised := serving.raised ++ events }

/-- Goes on with a message, whose replies are in hand once the handler is done. -/
def follow (serving : Serving σ) (parcel : Parcel) : Handling σ → Serving σ
  | .answer replies =>
    { serving with
      duty := .flushing replies
      handled := serving.handled ++ [⟨parcel, replies, serving.raised⟩] }
  | .proceed step next => { serving with duty := .handling parcel step next }

section Follow

variable (serving : Serving σ) (parcel : Parcel) (rest : Handling σ)

@[simp]
theorem state_follow : (serving.follow parcel rest).state = serving.state := by
  cases rest <;> rfl

@[simp]
theorem connection_follow : (serving.follow parcel rest).connection = serving.connection := by
  cases rest <;> rfl

@[simp]
theorem waiting_follow : (serving.follow parcel rest).waiting = serving.waiting := by
  cases rest <;> rfl

@[simp]
theorem received_follow : (serving.follow parcel rest).received = serving.received := by
  cases rest <;> rfl

@[simp]
theorem raised_follow : (serving.follow parcel rest).raised = serving.raised := by
  cases rest <;> rfl

end Follow

/-- Begins to send a message. -/
def post (serving : Serving σ) (message : DaemonMessage) : Serving σ :=
  { serving with connection := serving.connection.write message, outgoing := message.encode }

def disturb (change : σ → List DaemonMessage × σ) (serving : Serving σ) : Serving σ :=
  { serving.raise (change serving.state).1 with state := (change serving.state).2 }

/-- Whether the task waits for whatever comes first, an event or a chunk. -/
def isListening (serving : Serving σ) : Bool :=
  serving.duty.isFree && serving.waiting.isEmpty && serving.outgoing.isEmpty

def read (chunk : Bytes) (serving : Serving σ) : Serving σ :=
  if serving.isListening then
    let (receipts, inbox) := serving.connection.inbox.feed chunk
    { serving with
      connection :=
        { serving.connection with
          inbox, log := serving.connection.log ++ receipts.flatMap (·.log) }
      waiting := parcels receipts
      received := serving.received ++ chunk }
  else serving

def take (handler : Parcel → Handling σ) (serving : Serving σ) : Serving σ :=
  match serving.waiting with
  | parcel :: rest =>
    if serving.duty.isFree && serving.outgoing.isEmpty then
      { serving with waiting := rest }.follow parcel (handler parcel)
    else serving
  | [] => serving

def proceed (serving : Serving σ) : Serving σ :=
  match serving.duty with
  | .handling parcel step next => (serving.disturb step).follow parcel (next serving.state)
  | _ => serving

/-- Whether the task passes on events: before the replies to a message, or when it has nothing else
to do. -/
def isRelaying (serving : Serving σ) : Bool :=
  match serving.duty with
  | .flushing _ => serving.outgoing.isEmpty
  | _ => serving.isListening

def relay (serving : Serving σ) : Serving σ :=
  if serving.isRelaying then
    match serving.connection.nextEvent with
    | (some event, connection) => { serving with connection }.post event
    | (none, connection) => { serving with connection }
  else serving

def turn (serving : Serving σ) : Serving σ :=
  match serving.duty with
  | .flushing replies =>
    if serving.connection.unpassed.isEmpty && serving.connection.missed = 0 &&
        serving.outgoing.isEmpty then
      { serving with duty := .writing replies }
    else serving
  | _ => serving

def write (serving : Serving σ) : Serving σ :=
  match serving.duty with
  | .writing (reply :: rest) =>
    if serving.outgoing.isEmpty then { serving with duty := .writing rest }.post reply else serving
  | _ => serving

def transmit (count : Nat) (serving : Serving σ) : Serving σ :=
  { serving with
    outgoing := serving.outgoing.drop count
    sent := serving.sent ++ serving.outgoing.take count }

/-- One step, where a handler gives the handling of a message that is taken up at some time. -/
def act (handler : String → Parcel → Handling σ) (serving : Serving σ) : Act σ → Serving σ
  | .disturb change => serving.disturb change
  | .read chunk => serving.read chunk
  | .take now => serving.take (handler now)
  | .proceed => serving.proceed
  | .relay => serving.relay
  | .turn => serving.turn
  | .write => serving.write
  | .transmit count => serving.transmit count

def play (handler : String → Parcel → Handling σ) (serving : Serving σ) (acts : List (Act σ)) :
    Serving σ :=
  acts.foldl (act handler) serving

theorem play_append_singleton (handler : String → Parcel → Handling σ) (serving : Serving σ)
    (played : List (Act σ)) (last : Act σ) :
    serving.play handler (played ++ [last]) = (serving.play handler played).act handler last :=
  List.foldl_append

/-! ## What a step can do -/

/-- The ways in which a step can go; a step that is not possible changes nothing. -/
inductive Step (handler : String → Parcel → Handling σ) (serving : Serving σ) :
    Act σ → Serving σ → Prop where
  | idle (act : Act σ) : Step handler serving act serving
  | disturbed (change : σ → List DaemonMessage × σ) :
      Step handler serving (.disturb change) (serving.disturb change)
  | read (chunk : Bytes) (hduty : serving.duty = .writing []) (hwaiting : serving.waiting = []) :
      Step handler serving (.read chunk)
        { serving with
          connection :=
            { serving.connection with
              inbox := (serving.connection.inbox.feed chunk).2
              log := serving.connection.log ++
                (serving.connection.inbox.feed chunk).1.flatMap (·.log) }
          waiting := parcels (serving.connection.inbox.feed chunk).1
          received := serving.received ++ chunk }
  | taken {parcel : Parcel} {rest : List Parcel} (now : String)
      (hduty : serving.duty = .writing []) (hwaiting : serving.waiting = parcel :: rest) :
      Step handler serving (.take now)
        ({ serving with waiting := rest }.follow parcel (handler now parcel))
  | proceeded {parcel : Parcel} {step : σ → List DaemonMessage × σ} {next : σ → Handling σ}
      (hduty : serving.duty = .handling parcel step next) :
      Step handler serving .proceed ((serving.disturb step).follow parcel (next serving.state))
  | passed {event : DaemonMessage} {connection : Connection} (houtgoing : serving.outgoing = [])
      (hduty : (∃ replies, serving.duty = .flushing replies) ∨ serving.duty = .writing [])
      (hnext : serving.connection.nextEvent = (some event, connection)) :
      Step handler serving .relay ({ serving with connection }.post event)
  | lagged {connection : Connection} (hnext : serving.connection.nextEvent = (none, connection)) :
      Step handler serving .relay { serving with connection }
  | turned {replies : List DaemonMessage} (hduty : serving.duty = .flushing replies)
      (hunpassed : serving.connection.unpassed = []) :
      Step handler serving .turn { serving with duty := .writing replies }
  | written {reply : DaemonMessage} {rest : List DaemonMessage}
      (hduty : serving.duty = .writing (reply :: rest)) (houtgoing : serving.outgoing = []) :
      Step handler serving .write ({ serving with duty := .writing rest }.post reply)
  | transmitted (count : Nat) : Step handler serving (.transmit count) (serving.transmit count)

theorem eq_of_isListening {serving : Serving σ} (h : serving.isListening = true) :
    serving.duty = .writing [] ∧ serving.waiting = [] ∧ serving.outgoing = [] := by
  simp only [isListening, Bool.and_eq_true, List.isEmpty_iff] at h
  exact ⟨Duty.eq_of_isFree h.1.1, h.1.2, h.2⟩

theorem step_relay (handler : String → Parcel → Handling σ) (serving : Serving σ) :
    Step handler serving .relay serving.relay := by
  unfold relay
  split
  · rename_i hrelaying
    have hready : serving.outgoing = [] ∧
        ((∃ replies, serving.duty = .flushing replies) ∨ serving.duty = .writing []) := by
      unfold isRelaying at hrelaying
      split at hrelaying
      · rename_i replies hduty
        exact ⟨List.isEmpty_iff.mp hrelaying, .inl ⟨replies, hduty⟩⟩
      · obtain ⟨hduty, -, houtgoing⟩ := eq_of_isListening hrelaying
        exact ⟨houtgoing, .inr hduty⟩
    split
    · rename_i event connection hnext
      exact .passed hready.1 hready.2 hnext
    · rename_i connection hnext
      exact .lagged hnext
  · exact .idle _

theorem step_act (handler : String → Parcel → Handling σ) (serving : Serving σ) (act : Act σ) :
    Step handler serving act (serving.act handler act) := by
  cases act with
  | disturb change => exact .disturbed change
  | read chunk =>
    change Step handler serving (.read chunk) (serving.read chunk)
    unfold read
    split
    · rename_i hlistening
      obtain ⟨hduty, hwaiting, -⟩ := eq_of_isListening hlistening
      exact .read chunk hduty hwaiting
    · exact .idle _
  | take now =>
    change Step handler serving (.take now) (serving.take (handler now))
    unfold take
    split
    · rename_i parcel rest hwaiting
      split
      · rename_i hfree
        exact .taken now (Duty.eq_of_isFree (Bool.and_eq_true_iff.mp hfree).1) hwaiting
      · exact .idle _
    · exact .idle _
  | proceed =>
    change Step handler serving .proceed serving.proceed
    unfold proceed
    split
    · rename_i parcel step next hduty
      exact .proceeded hduty
    · exact .idle _
  | relay => exact step_relay handler serving
  | turn =>
    change Step handler serving .turn serving.turn
    unfold turn
    split
    · rename_i replies hduty
      split
      · rename_i hrest
        simp only [Bool.and_eq_true, List.isEmpty_iff] at hrest
        exact .turned hduty hrest.1.1
      · exact .idle _
    · exact .idle _
  | write =>
    change Step handler serving .write serving.write
    unfold write
    split
    · rename_i reply rest hduty
      split
      · rename_i houtgoing
        exact .written hduty (List.isEmpty_iff.mp houtgoing)
      · exact .idle _
    · exact .idle _
  | transmit count => exact .transmitted count

/-- What will have been written when the task has come to rest, if nothing more happens. -/
def output (serving : Serving σ) : List DaemonMessage :=
  serving.connection.written ++ serving.duty.arrange serving.connection.unpassed

end Serving

namespace Connection

variable {connection : Connection}

theorem nextEvent_kept (connection : Connection) :
    connection.nextEvent.2.written = connection.written ∧
      connection.nextEvent.2.inbox = connection.inbox ∧
      connection.nextEvent.2.backlog.isSome = connection.backlog.isSome := by
  unfold nextEvent
  split
  · rename_i event rest hbacklog
    exact ⟨rfl, rfl, by rw [hbacklog]; rfl⟩
  · rename_i missed events hbacklog
    exact ⟨rfl, rfl, by rw [hbacklog]; rfl⟩
  · exact ⟨rfl, rfl, rfl⟩

/-- Where nothing was missed, the next event is the first that has not been passed on. -/
theorem nextEvent_law (hmissed : connection.missed = 0) :
    connection.unpassed = connection.nextEvent.1.toList ++ connection.nextEvent.2.unpassed := by
  unfold missed at hmissed
  unfold nextEvent
  split
  · rename_i event rest hbacklog
    simp [unpassed, hbacklog]
  · rename_i missed events hbacklog
    rw [hbacklog] at hmissed
    cases hmissed
  · rfl

theorem unpassed_notify (hsubscribed : connection.backlog.isSome = true)
    {events : List DaemonMessage} (hmissed : (connection.notify events).missed = 0) :
    (connection.notify events).unpassed = connection.unpassed ++ events := by
  have hupcoming := upcoming_notify hsubscribed hmissed
  unfold upcoming at hupcoming
  rw [List.append_assoc] at hupcoming
  exact List.append_cancel_left hupcoming

theorem missed_nextEvent (connection : Connection) : connection.nextEvent.2.missed = 0 := by
  unfold nextEvent
  split
  · rfl
  · rfl
  · rename_i hnone hlagged
    unfold missed
    cases hbacklog : connection.backlog with
    | none => rfl
    | some backlog =>
      obtain ⟨missed, events⟩ := backlog
      cases missed with
      | zero => rfl
      | succ missed => exact absurd hbacklog (hlagged missed events)

theorem notify_of_room (events : List DaemonMessage)
    (h : connection.unpassed.length + events.length ≤ Backlog.capacity) :
    (connection.notify events).missed = connection.missed ∧
      (connection.notify events).unpassed.length ≤ connection.unpassed.length + events.length := by
  unfold unpassed at h
  unfold missed unpassed notify
  cases hbacklog : connection.backlog with
  | none => exact ⟨rfl, Nat.zero_le _⟩
  | some backlog =>
    rw [hbacklog] at h
    have hpush : backlog.pushAll events = ⟨backlog.missed, backlog.events ++ events⟩ :=
      Backlog.pushAll_of_room h
    simp [hpush]

theorem isSome_notify (connection : Connection) (events : List DaemonMessage) :
    (connection.notify events).backlog.isSome = connection.backlog.isSome :=
  Option.isSome_map

end Connection

end TunnelChain
