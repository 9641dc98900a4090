import TunnelChain.Client.Stream
import TunnelChain.Operator.Amount
import TunnelChain.Operator.Complaint
import TunnelChain.Operator.Invocation

/-!
What an operator asks of a running daemon, as a dialogue over one connection. Once the daemon has
reported its state, the errand's messages are sent, and after them a version query: its answer shows
that everything before it has been handled, so that the events up to then tell how the errand went.
-/
namespace TunnelChain

inductive Errand where
  | status
  | up (plan : Plan)
  | down (hops : Nat)
  | logs
  | cleanLogs
  | version
deriving DecidableEq, Repr

namespace Errand

inductive Stage where
  /-- Waiting for the first report. -/
  | opening
  /-- Collecting events up to the version. -/
  | settling (seen : List SessionEvent)
  /-- Waiting for the version itself. -/
  | inquiring
  /-- Waiting for the log. -/
  | reading
  | finished (result : Except Complaint Unit)

/-- An errand under way; `printed` is its standard output so far. -/
structure Dialogue where
  errand : Errand
  client : Client Unit
  stage : Stage
  printed : String
  log : List LogLine

namespace Dialogue

def print (dialogue : Dialogue) (line : String) : Dialogue :=
  { dialogue with printed := dialogue.printed ++ line ++ "\n" }

def finish (dialogue : Dialogue) (result : Except Complaint Unit) : Dialogue :=
  { dialogue with stage := .finished result }

def succeed (dialogue : Dialogue) : Dialogue :=
  dialogue.finish (.ok ())

def fail (dialogue : Dialogue) (summary : String) : Dialogue :=
  dialogue.finish (.error (.plain summary))

def result? (dialogue : Dialogue) : Option (Except Complaint Unit) :=
  match dialogue.stage with
  | .finished result => some result
  | _ => none

/-- The value in a column of its own after a label. -/
def row (label value : String) : String :=
  label ++ ":" ++ String.ofList (List.replicate (14 - label.length) ' ') ++ value

/-- Asks the session for something; a session that is ready answers with nothing but messages to
send. -/
def ask (dialogue : Dialogue) (step : Session Unit → Transition Unit × Session Unit) :
    List ClientMessage × Dialogue :=
  let (transition, client) := dialogue.client.take step
  (transition.outbound, { dialogue with client, log := dialogue.log ++ transition.log })

/-- Asks for something and then for the version, and goes on to the given stage. -/
def askThenVersion (dialogue : Dialogue) (stage : Stage)
    (step : Session Unit → Transition Unit × Session Unit) : List ClientMessage × Dialogue :=
  let (first, dialogue) := dialogue.ask step
  let (second, dialogue) := dialogue.ask Session.queryVersion
  (first ++ second, { dialogue with stage })

/-- Sends the errand's messages, now that the daemon has reported its state. -/
def begin (dialogue : Dialogue) (connected : Bool) (since : Option Instant) :
    List ClientMessage × Dialogue :=
  match dialogue.errand with
  | .status =>
    let shown :=
      ((dialogue.print "hoplink Status").print "==============").print
        (row "Connected" (toString connected))
    let shown := match since with
      | some instant => shown.print (row "Since" instant.text)
      | none => shown
    if connected then shown.askThenVersion (.settling []) Session.checkStatus
    else ([], shown.succeed)
  | .up plan => dialogue.askThenVersion (.settling []) fun session => session.activate plan
  | .down hops => dialogue.askThenVersion (.settling []) (Client.deactivateHops hops)
  | .logs => { dialogue with stage := .reading }.ask fun session => session.requestLogs ()
  | .cleanLogs => dialogue.askThenVersion (.settling []) Session.clearLogs
  | .version => { dialogue with stage := .inquiring }.ask Session.queryVersion

def printStatus (dialogue : Dialogue) : SessionEvent → Dialogue
  | .statusUpdated gateway device sent received =>
    (((dialogue.print (row "Gateway" gateway)).print (row "Address" device)).print
      (row "Sent" (Amount.text sent))).print (row "Received" (Amount.text received))
  | _ => dialogue

def isConnection (event : SessionEvent) : Bool :=
  event = .connected || event = .disconnected

/-- How an activation went: the last word on the exit hop decides, unless the engine failed. -/
def concludeUp (dialogue : Dialogue) (plan : Plan) (seen : List SessionEvent) : Dialogue :=
  if .controllerError ∈ seen then dialogue.fail "Daemon reported a backend failure"
  else if seen.reverse.find? isConnection = some .connected then
    (dialogue.print ("Connected through " ++ toString plan.hopCount ++ " hop(s)")).succeed
  else dialogue.fail "Activation failed, see `hoplink logs`"

/-- Ends the errand with the events up to the version. -/
def conclude (dialogue : Dialogue) (seen : List SessionEvent) : Dialogue :=
  match dialogue.errand with
  | .status => (seen.foldl printStatus dialogue).succeed
  | .up plan => dialogue.concludeUp plan seen
  | .down _ =>
    (dialogue.print (if .disconnected ∈ seen then
      "Disconnected" else "No active connection")).succeed
  | .cleanLogs => (dialogue.print "Daemon logs cleared").succeed
  | _ => dialogue.succeed

def closed : String := "Daemon connection closed"

def heed (dialogue : Dialogue) (event : SessionEvent) : List ClientMessage × Dialogue :=
  match dialogue.stage, event with
  | .opening, .initialized true connected since => dialogue.begin connected since
  | .opening, .initialized false _ _ =>
    ([], dialogue.fail "Daemon closed the connection during initialization")
  | .opening, other =>
    ([], dialogue.fail ("Unexpected event before initialization: " ++ other.summary))
  | .settling seen, event =>
    if dialogue.client.session.phase = .disconnected then ([], dialogue.fail closed)
    else
      match event with
      | .version _ => ([], dialogue.conclude seen)
      | event =>
        ([], { dialogue with
          stage := .settling (seen ++ [event])
          log := dialogue.log ++ [⟨.debug, "Event: " ++ event.summary⟩] })
  | .inquiring, .version number =>
    ([], (dialogue.print ("Protocol version " ++ toString number.toNat)).succeed)
  | _, _ => ([], dialogue)

def heedAll (dialogue : Dialogue) : List SessionEvent → List ClientMessage × Dialogue
  | [] => ([], dialogue)
  | event :: rest =>
    let (first, dialogue) := dialogue.heed event
    let (second, dialogue) := dialogue.heedAll rest
    (first ++ second, dialogue)

/-- Takes the log, which is printed as it is. -/
def heedReply (dialogue : Dialogue) (reply : Unit × String) : Dialogue :=
  match dialogue.stage with
  | .reading => { dialogue with printed := dialogue.printed ++ reply.2 }.succeed
  | _ => dialogue

def follow (dialogue : Dialogue) (outcome : Transition Unit × Client Unit) :
    List ClientMessage × Dialogue :=
  let (transition, client) := outcome
  let (messages, dialogue) :=
    { dialogue with client, log := dialogue.log ++ transition.log }.heedAll transition.events
  (transition.outbound ++ messages, transition.replies.foldl heedReply dialogue)

def receive (dialogue : Dialogue) (chunk : Bytes) : List ClientMessage × Dialogue :=
  dialogue.follow (dialogue.client.receive chunk)

def lose (dialogue : Dialogue) : List ClientMessage × Dialogue :=
  dialogue.follow dialogue.client.lose

/-- Nothing more has come for too long. -/
def timeOut (dialogue : Dialogue) : Dialogue :=
  match dialogue.stage with
  | .finished _ => dialogue
  | .reading => dialogue.finish (.error ⟨"Timed out waiting for logs", ["deadline has elapsed"]⟩)
  | _ => dialogue.fail "Timed out waiting for the daemon"

/-- A peer takes a message and answers with bytes, or closes the connection. -/
abbrev Peer (π : Type) := ClientMessage → π → Option Bytes × π

/-- Sends messages one after another, and collects what the errand sends in answer to the
answers. -/
def exchange {π : Type} (peer : Peer π) (dialogue : Dialogue) (state : π) :
    List ClientMessage → List ClientMessage × Dialogue × π
  | [] => ([], dialogue, state)
  | message :: rest =>
    match peer message state with
    | (none, state) => (dialogue.lose.1, dialogue.lose.2, state)
    | (some chunk, state) =>
      let (first, dialogue) := dialogue.receive chunk
      let (second, dialogue, state) := exchange peer dialogue state rest
      (first ++ second, dialogue, state)

/-- Holds the whole dialogue, which takes two rounds: the report, and the errand's own messages. -/
def hold {π : Type} (peer : Peer π) (dialogue : Dialogue) (state : π)
    (messages : List ClientMessage) : Dialogue × π :=
  let (own, dialogue, state) := dialogue.exchange peer state messages
  let (_, dialogue, state) := dialogue.exchange peer state own
  (dialogue.timeOut, state)

end Dialogue

/-- What is logged before a connection is made. -/
def announcement : Errand → List LogLine
  | .up plan => [⟨.info, "Activating " ++ toString plan.hopCount ++ " hop(s)..."⟩]
  | _ => []

def start (errand : Errand) : List ClientMessage × Dialogue :=
  Dialogue.follow ⟨errand, ⟨.fresh, .empty, true⟩, .opening, "", errand.announcement⟩ Client.start

/-- Reads the plan at `path`, given the content of the file or the reason why it cannot be read. -/
def readPlan (path : String) (content : Except String Bytes) : Except Complaint Plan :=
  let unread := "Failed to read plan " ++ path
  match content with
  | .error reason => .error ⟨unread, [reason]⟩
  | .ok bytes =>
    match Utf8.decode bytes with
    | none => .error ⟨unread, ["stream did not contain valid UTF-8"]⟩
    | some text =>
      match Plan.reader.ofText text with
      | .error fault => .error ⟨"Invalid activation plan", [fault.message]⟩
      | .ok plan =>
        if plan.servers.isEmpty then .error (.plain "Activation plan has no servers") else .ok plan

/-- The errand of a task, given a way to read files. -/
def ofTask (read : String → Except String Bytes) : Task → Except Complaint Errand
  | .daemon _ => .error (.plain "`daemon` does not talk to a running daemon")
  | .status => .ok .status
  | .up plan => (readPlan plan (read plan)).map .up
  | .down hops => .ok (.down hops)
  | .logs => .ok .logs
  | .cleanLogs => .ok .cleanLogs
  | .version => .ok .version

end Errand

/-- Why no connection was made. -/
inductive ConnectFailure where
  | notFound
  | refused
  | other (reason : String)
deriving DecidableEq, Repr, Inhabited

namespace ConnectFailure

def message : ConnectFailure → String
  | .notFound => "Daemon not running"
  | .refused => "Daemon not running"
  | .other reason => "Connection failed: " ++ reason

def complaint (failure : ConnectFailure) (socket : String) : Complaint :=
  ⟨"Failed to connect to " ++ socket, [failure.message]⟩

end ConnectFailure

end TunnelChain
