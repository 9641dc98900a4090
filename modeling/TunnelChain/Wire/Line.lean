import TunnelChain.Json.Text
import TunnelChain.Log.Line
import TunnelChain.Text.Blank
import TunnelChain.Wire.Message

/-!
Messages as lines. Each message is one compact JSON object and a line feed. A stream may arrive in
chunks of any size; what follows the last line feed waits for the next chunk.
-/
namespace TunnelChain

/-- A line that was read as a JSON object with a textual `type`. -/
structure Parcel where
  kind : String
  body : Json
deriving Repr, Inhabited

inductive LineError where
  | malformed
  | notAnObject
  | untyped
  | badField (fault : Json.Fault)
deriving DecidableEq, Repr

namespace LineError

def message : LineError → String
  | .malformed => "Malformed message: <json>"
  | .notAnObject => "Malformed message: object expected"
  | .untyped => "Message has no string `type` field"
  | .badField fault => "JSON error: " ++ fault.message

end LineError

namespace Parcel

def ofLine (line : Bytes) : Except LineError Parcel :=
  match (Utf8.decode line).bind Json.parse? with
  | none => .error .malformed
  | some body =>
    if body.isObject then
      match (body.field? "type").bind Json.text? with
      | some kind => .ok ⟨kind, body⟩
      | none => .error .untyped
    else .error .notAnObject

def client (parcel : Parcel) : Except LineError ClientMessage :=
  (ClientMessage.ofJson parcel.body).mapError .badField

def daemon (parcel : Parcel) : Except LineError DaemonMessage :=
  (DaemonMessage.ofJson parcel.body).mapError .badField

def status (parcel : Parcel) : Except LineError StatusReport :=
  (StatusReport.reader.ofJson parcel.body).mapError .badField

end Parcel

def lineFeed : UInt8 := 0x0A

def ClientMessage.encode (message : ClientMessage) : Bytes :=
  Utf8.encode message.toJson.text ++ [lineFeed]

def DaemonMessage.encode (message : DaemonMessage) : Bytes :=
  Utf8.encode message.toJson.text ++ [lineFeed]

/-- What a line gives: its message if it has one, and the log lines about it. -/
structure Receipt where
  parcel : Option Parcel
  log : List LogLine
deriving Repr

def shownBytes : Nat := 20

/-- Reads a line without the blanks around it; an empty line gives nothing. -/
def receive (line : Bytes) : Receipt :=
  let line := trimBytes line
  if line.isEmpty then ⟨none, []⟩
  else
    let seen : LogLine := ⟨.debug, "Message received: " ++ Utf8.decodeLossy (line.take shownBytes)⟩
    match Parcel.ofLine line with
    | .ok parcel => ⟨some parcel, [seen]⟩
    | .error error => ⟨none, [seen, ⟨.warn, "Dropping message: " ++ error.message⟩]⟩

/-- The inbound side of a stream: the bytes since the last line feed, the latest first. -/
structure Inbox where
  unread : Bytes
deriving DecidableEq, Repr

namespace Inbox

def empty : Inbox :=
  ⟨[]⟩

def pending (inbox : Inbox) : Bytes :=
  inbox.unread.reverse

/-- Takes one byte; `done` holds the complete lines, the latest first. -/
def step : List Bytes × Bytes → UInt8 → List Bytes × Bytes
  | (done, unread), byte =>
    if byte = lineFeed then (unread.reverse :: done, []) else (done, byte :: unread)

/-- The lines that a chunk completes, each read, and the inbox after it. -/
def feed (inbox : Inbox) (chunk : Bytes) : List Receipt × Inbox :=
  let (done, unread) := chunk.foldl step ([], inbox.unread)
  (done.reverse.map receive, ⟨unread⟩)

end Inbox

def parcels (receipts : List Receipt) : List Parcel :=
  receipts.filterMap (·.parcel)

end TunnelChain
