import TunnelChain.Client.Plan
import TunnelChain.Instant
import TunnelChain.Wire.Line

/-!
The client's side of a connection. A session asks for the state once and is ready when the answer
comes; it ends when the transport fails. At most one log request waits for its answer, and a request
that is dropped is answered with the empty text.
-/
namespace TunnelChain

inductive Phase where
  | unknown
  | initializing
  | ready
  | disconnected
deriving DecidableEq, Repr, Inhabited

def Phase.name : Phase → String
  | .unknown => "Unknown"
  | .initializing => "Initializing"
  | .ready => "Ready"
  | .disconnected => "Disconnected"

/-- Why hops are brought down: for good, or because the next activation takes them over. -/
inductive Purpose where
  | stop
  | switch
deriving DecidableEq, Repr, Inhabited

inductive SessionEvent where
  | initialized (ok connected : Bool) (since : Option Instant)
  | connected
  | disconnected
  | statusUpdated (gateway device : String) (sent received : Nat)
  | controllerError
  | version (number : UInt32)
deriving DecidableEq, Repr, Inhabited

def SessionEvent.summary : SessionEvent → String
  | .initialized ok isConnected since =>
    Quoted.record "Initialized"
      [("ok", toString ok), ("connected", toString isConnected),
        ("since", match since with
          | some instant => "Some(" ++ instant.clockText ++ "Z)"
          | none => "None")]
  | .connected => "Connected"
  | .disconnected => "Disconnected"
  | .statusUpdated gateway device sent received =>
    Quoted.record "StatusUpdated"
      [("server_ipv4_gateway", Quoted.quote gateway), ("device_ipv4_address", Quoted.quote device),
        ("tx_bytes", toString sent), ("rx_bytes", toString received)]
  | .controllerError => "ControllerError"
  | .version number => "Version(" ++ toString number.toNat ++ ")"

/-- A session whose owner names log requests by values of `τ`. -/
structure Session (τ : Type) where
  phase : Phase
  hopCount : Nat
  waiting : Option τ
deriving DecidableEq, Repr

/-- What a step of a session asks to be written, surfaced and answered, and what it logs. -/
structure Transition (τ : Type) where
  outbound : List ClientMessage
  events : List SessionEvent
  replies : List (τ × String)
  log : List LogLine
deriving DecidableEq, Repr

namespace Transition

variable {τ : Type}

def none : Transition τ :=
  ⟨[], [], [], []⟩

def send (messages : List ClientMessage) : Transition τ :=
  { none with outbound := messages }

def surface (events : List SessionEvent) : Transition τ :=
  { none with events }

def withReplies (transition : Transition τ) (replies : List (τ × String)) : Transition τ :=
  { transition with replies := transition.replies ++ replies }

def logging (transition : Transition τ) (level : Level) (text : String) : Transition τ :=
  { transition with log := transition.log ++ [⟨level, text⟩] }

def isEmpty (transition : Transition τ) : Bool :=
  transition.outbound.isEmpty && transition.events.isEmpty && transition.replies.isEmpty

end Transition

namespace Session

variable {τ : Type}

def fresh : Session τ :=
  ⟨.unknown, 0, none⟩

/-- Makes the next deactivation cover hops that another session brought up. -/
def adopt (session : Session τ) (hops : Nat) : Session τ :=
  { session with hopCount := hops }

/-- The answer to a log request that is dropped. -/
def dropped (session : Session τ) : List (τ × String) :=
  session.waiting.toList.map fun tag => (tag, "")

def isTalking (session : Session τ) : Bool :=
  session.phase = .ready || session.phase = .initializing

def connect (session : Session τ) : Transition τ × Session τ :=
  if session.phase = .unknown then
    ((Transition.send [.status]).logging .debug "Daemon connected, requesting status",
      { session with phase := .initializing })
  else (Transition.none.logging .warn ("Transport connected in state " ++ session.phase.name),
    session)

/-- The transport failed; only the first failure is reported. -/
def fail (session : Session τ) : Transition τ × Session τ :=
  let next := { session with phase := .disconnected, waiting := none }
  match session.phase with
  | .disconnected => (.none, session)
  | .initializing =>
    (((Transition.surface
        [.initialized false false none, .controllerError, .disconnected]).withReplies
      session.dropped).logging .error "Daemon connection failed during initialization", next)
  | phase =>
    (((Transition.surface [.controllerError, .disconnected]).withReplies
      session.dropped).logging .warn ("Daemon connection lost in state " ++ phase.name), next)

/-- Brings every hop of a plan up, the entry first. -/
def activate (session : Session τ) (plan : Plan) : Transition τ × Session τ :=
  if session.phase ≠ .ready then
    ((Transition.surface [.disconnected]).logging .warn
      ("Activate requested in state " ++ session.phase.name), session)
  else if plan.servers.isEmpty then
    ((Transition.surface [.disconnected]).logging .warn "Activate requested with no servers",
      session)
  else
    ((Transition.send plan.messages).logging .info
      ("Activating " ++ toString plan.hopCount ++ " hop(s)"),
      { session with hopCount := plan.hopCount })

/-- Brings the hops of the last plan down, the exit first, unless the next plan is to take them
over. -/
def deactivate (session : Session τ) (purpose : Purpose) : Transition τ × Session τ :=
  if session.phase ≠ .ready then
    ((Transition.surface [.disconnected]).logging .warn
      ("Deactivate requested in state " ++ session.phase.name),
      session)
  else if purpose = .switch then
    ((Transition.surface [.disconnected]).logging .debug "Switching servers, skipping deactivate",
      session)
  else
    (.send ((List.range session.hopCount).map fun hop => .deactivate (some (UInt32.ofNat hop))),
      { session with hopCount := 0 })

def checkStatus (session : Session τ) : Transition τ × Session τ :=
  (if session.isTalking then .send [.status] else .none, session)

def queryVersion (session : Session τ) : Transition τ × Session τ :=
  (if session.isTalking then .send [.version] else .none, session)

/-- Asks for the log; an earlier request that waits is dropped. -/
def requestLogs (session : Session τ) (tag : τ) : Transition τ × Session τ :=
  if session.phase = .ready then
    ((Transition.send [.logs]).withReplies session.dropped, { session with waiting := some tag })
  else (Transition.none.withReplies (session.dropped ++ [(tag, "")]),
    { session with waiting := none })

def clearLogs (session : Session τ) : Transition τ × Session τ :=
  ((if session.phase = .ready then Transition.send [.cleanLogs] else .none).withReplies
    session.dropped,
    { session with waiting := none })

def becomeReady (session : Session τ) (body : Json) : Transition τ × Session τ :=
  let flag := (body.field? "connected").bind Json.flag?
  let connected := flag.getD false
  let since :=
    if connected then ((body.field? "date").bind Json.text?).bind Instant.parse? else none
  let log : List LogLine :=
    (if flag.isNone then [⟨.warn, "Status reply without a connected flag"⟩] else []) ++
      (if connected && since.isNone then [⟨.warn, "Status reply without a valid date"⟩] else []) ++
      [⟨.info, "Daemon ready, connected: " ++ toString connected⟩]
  ({ Transition.surface [.initialized true connected since] with log },
    { session with phase := .ready })

def takeStatus (body : Json) : Transition τ :=
  match (body.field? "serverIpv4Gateway").bind Json.text?,
    (body.field? "deviceIpv4Address").bind Json.text?,
    (body.field? "txBytes").bind Json.natural?, (body.field? "rxBytes").bind Json.natural? with
  | some gateway, some device, some sent, some received =>
    .surface [.statusUpdated gateway device sent received]
  | _, _, _, _ => Transition.none.logging .debug "Status reply without a snapshot"

def takeHopEvent (kind : String) (event : SessionEvent) (body : Json) : Transition τ :=
  match (body.field? "hopindex").bind Json.natural? with
  | none => Transition.none.logging .warn (kind ++ " event without a hop index")
  | some 0 => .surface [event]
  | some hop => Transition.none.logging .debug ("Hop " ++ toString hop ++ " " ++ kind)

/-- The text of a log answer: line breaks travel as bars. -/
def logText (body : Json) : String :=
  match (body.field? "logs").bind Json.text? with
  | some text => String.ofList (text.toList.map fun c => if c = '|' then '\n' else c)
  | none => ""

def takeLogs (session : Session τ) (body : Json) : Transition τ × Session τ :=
  (Transition.none.withReplies (session.waiting.toList.map fun tag => (tag, logText body)),
    { session with waiting := none })

def takeVersion (body : Json) : Transition τ :=
  match (body.field? "version").bind Json.natural? with
  | some number => .surface [.version (UInt32.ofNat number)]
  | none => Transition.none.logging .warn "Version reply without a version"

def handleReady (session : Session τ) (parcel : Parcel) : Transition τ × Session τ :=
  match parcel.kind with
  | "status" => (takeStatus parcel.body, session)
  | "connected" => (takeHopEvent "connected" .connected parcel.body, session)
  | "disconnected" => (takeHopEvent "disconnected" .disconnected parcel.body, session)
  | "backendFailure" =>
    ((Transition.surface [.controllerError]).logging .error "Daemon reported a backend failure",
      session)
  | "logs" => session.takeLogs parcel.body
  | kind => (Transition.none.logging .warn ("Unexpected command " ++ kind), session)

def handle (session : Session τ) (parcel : Parcel) : Transition τ × Session τ :=
  if parcel.kind = "version" then (takeVersion parcel.body, session)
  else if session.phase = .initializing ∧ parcel.kind = "status" then
    session.becomeReady parcel.body
  else if session.phase = .ready then session.handleReady parcel
  else
    (Transition.none.logging .warn
      ("Unexpected command " ++ parcel.kind ++ " in state " ++ session.phase.name), session)

def summary (session : Session τ) : String :=
  Quoted.record "ClientSession"
    [("state", session.phase.name), ("hop_count", toString session.hopCount),
      ("pending_logs", toString session.waiting.isSome)]

end Session

end TunnelChain
