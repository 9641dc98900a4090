import TunnelChain.Service.Reaction
import TunnelChain.Table

/-!
Connections as the daemon serves them. Messages are handled in the order they arrive, and the events
raised up to then are written before the replies to a message, so that whoever asks for the version
last has been told of everything else when the answer comes.
-/
namespace TunnelChain

/-- One connection: what has arrived, the events to pass on (if the connection is told of events),
what has been written to the peer, and the log of that. -/
structure Connection where
  inbox : Inbox
  backlog : Option Backlog
  written : List DaemonMessage
  log : List LogLine
deriving Repr

namespace Connection

def note (connection : Connection) (level : Level) (text : String) : Connection :=
  { connection with log := connection.log ++ [⟨level, text⟩] }

def accept (subscribes : Bool) : Connection :=
  (Connection.mk .empty (if subscribes then some .empty else none) [] []).note .debug
    "Client connected"

def notify (connection : Connection) (events : List DaemonMessage) : Connection :=
  { connection with backlog := connection.backlog.map (·.pushAll events) }

def write (connection : Connection) (message : DaemonMessage) : Connection :=
  { connection with written := connection.written ++ [message] }.note .debug
    ("Sending: " ++ message.toJson.text)

def writeAll (connection : Connection) (messages : List DaemonMessage) : Connection :=
  messages.foldl write connection

def flush (connection : Connection) : Connection :=
  match connection.backlog with
  | none => connection
  | some backlog =>
    let noted :=
      if backlog.missed = 0 then connection
      else connection.note .warn
        ("Event stream lagged, missed " ++ toString backlog.missed ++ " events")
    { noted with backlog := some .empty }.writeAll backlog.events

def reply (connection : Connection) (replies : List DaemonMessage) : Connection :=
  connection.flush.writeAll replies

def takeWritten (connection : Connection) : List DaemonMessage × Connection :=
  (connection.written, { connection with written := [] })

/-- Takes the oldest messages written, up to `count`. -/
def takeFirst (count : Nat) (connection : Connection) : List DaemonMessage × Connection :=
  (connection.written.take count, { connection with written := connection.written.drop count })

end Connection

/-- Connections, by name, that share a state. -/
structure Switchboard (σ : Type) where
  state : σ
  connections : Table String Connection

namespace Switchboard

variable {σ : Type}

def fresh (state : σ) : Switchboard σ :=
  ⟨state, Table.empty⟩

def connect (board : Switchboard σ) (name : String) (subscribes : Bool) : Switchboard σ :=
  { board with connections := board.connections.insert name (.accept subscribes) }

def disconnect (board : Switchboard σ) (name : String) : Switchboard σ :=
  { board with connections := board.connections.erase name }

/-- Changes the state otherwise than by a message, which may raise events, too. -/
def update (board : Switchboard σ) (change : σ → List DaemonMessage × σ) : Switchboard σ :=
  let (events, state) := change board.state
  ⟨state, board.connections.mapValues (·.notify events)⟩

def settle (board : Switchboard σ) : Switchboard σ :=
  { board with connections := board.connections.mapValues (·.flush) }

/-- Handles a message from a connection. Every connection passes its events on before the next
message is handled. -/
def react (handler : Handler σ) (name : String) (board : Switchboard σ) (parcel : Parcel) :
    Switchboard σ :=
  let reaction := handler parcel board.state
  let notified := board.update fun _ => (reaction.events, reaction.state)
  settle
    { notified with connections := notified.connections.modify name (·.reply reaction.replies) }

def receive (handler : Handler σ) (name : String) (chunk : Bytes) (board : Switchboard σ) :
    Switchboard σ :=
  match board.connections.get? name with
  | none => board
  | some connection =>
    let (receipts, inbox) := connection.inbox.feed chunk
    let heard := { connection with inbox, log := connection.log ++ receipts.flatMap (·.log) }
    (parcels receipts).foldl (react handler name)
      { board with connections := board.connections.insert name heard }

/-- Takes chunks from several connections, and then passes on every event. -/
def receiveAll (handler : Handler σ) (chunks : List (String × Bytes)) (board : Switchboard σ) :
    Switchboard σ :=
  (chunks.foldl (fun board chunk => board.receive handler chunk.1 chunk.2) board).settle

/-- Takes messages from one connection; one that is not there has none. -/
def withdraw (board : Switchboard σ) (name : String)
    (take : Connection → List DaemonMessage × Connection) : List DaemonMessage × Switchboard σ :=
  match board.connections.get? name with
  | none => ([], board)
  | some connection =>
    let (written, connection) := take connection
    (written, { board with connections := board.connections.insert name connection })

def takeWritten (board : Switchboard σ) (name : String) : List DaemonMessage × Switchboard σ :=
  board.withdraw name Connection.takeWritten

end Switchboard

end TunnelChain
