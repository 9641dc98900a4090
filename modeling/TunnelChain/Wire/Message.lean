import TunnelChain.Hop.Range
import TunnelChain.Json.Record

/-!
The messages on the wire. A client asks for tunnels, their state and the log; the daemon answers
and reports what happened.
-/
namespace TunnelChain

abbrev HopIndex := UInt32

def protocolVersion : UInt32 := 1

/-- What a client asks a hop's tunnel to be; an absent hop means the exit hop. -/
structure TunnelRequest where
  hop : Option HopIndex
  privateKey : String
  deviceIpv4 : String
  deviceIpv6 : String
  gatewayIpv4 : String
  gatewayIpv6 : String
  publicKey : String
  serverIpv4 : String
  serverIpv6 : String
  port : UInt16
  ipv6Enabled : Bool
  ranges : List RangeEntry
deriving DecidableEq, Repr, Inhabited

inductive ClientMessage where
  | activate (request : TunnelRequest)
  | deactivate (hop : Option HopIndex)
  | status
  | logs
  | cleanLogs
  | version
deriving DecidableEq, Repr, Inhabited

/-- The state of the exit hop; only `connected` is present when it is down. -/
structure StatusReport where
  connected : Bool
  gatewayIpv4 : Option String
  deviceIpv4 : Option String
  date : Option String
  sent : Option UInt64
  received : Option UInt64
deriving DecidableEq, Repr, Inhabited

inductive DaemonMessage where
  | connected (hop : HopIndex)
  | disconnected (hop : HopIndex)
  | backendFailure
  | status (report : StatusReport)
  | logs (text : String)
  | version (number : UInt32)
deriving DecidableEq, Repr, Inhabited

namespace RangeEntry

def reader : Json.Reader RangeEntry :=
  Json.Record.read "WireIpRange" <|
    RangeEntry.mk <$> .required "address" .text <*> .required "range" .natural32
      <*> .required "isIpv6" .flag

def toJson (entry : RangeEntry) : Json :=
  .obj [("address", .str entry.address), ("range", .num (.int entry.length.toNat)),
    ("isIpv6", .bool entry.isIpv6)]

end RangeEntry

namespace TunnelRequest

def reader : Json.Reader TunnelRequest :=
  Json.Record.read "ActivateRequest" <|
    TunnelRequest.mk <$> .optional "hopindex" .natural32 <*> .required "privateKey" .text
      <*> .required "deviceIpv4Address" .text <*> .required "deviceIpv6Address" .text
      <*> .required "serverIpv4Gateway" .text <*> .required "serverIpv6Gateway" .text
      <*> .required "serverPublicKey" .text <*> .required "serverIpv4AddrIn" .text
      <*> .required "serverIpv6AddrIn" .text <*> .required "serverPort" .natural16
      <*> .required "ipv6Enabled" .flag
      <*> .required "allowedIPAddressRanges" (.list RangeEntry.reader)

end TunnelRequest

def natJson (n : Nat) : Json :=
  .num (.int n)

/-- A field that is left out when it has no value. -/
def optionField {α : Type} (name : String) (toJson : α → Json) : Option α → List (String × Json)
  | none => []
  | some value => [(name, toJson value)]

def hopField : Option HopIndex → List (String × Json) :=
  optionField "hopindex" fun hop => natJson hop.toNat

namespace TunnelRequest

def fields (request : TunnelRequest) : List (String × Json) :=
  hopField request.hop ++
    [("privateKey", .str request.privateKey), ("deviceIpv4Address", .str request.deviceIpv4),
      ("deviceIpv6Address", .str request.deviceIpv6),
      ("serverIpv4Gateway", .str request.gatewayIpv4),
      ("serverIpv6Gateway", .str request.gatewayIpv6), ("serverPublicKey", .str request.publicKey),
      ("serverIpv4AddrIn", .str request.serverIpv4), ("serverIpv6AddrIn", .str request.serverIpv6),
      ("serverPort", natJson request.port.toNat), ("ipv6Enabled", .bool request.ipv6Enabled),
      ("allowedIPAddressRanges", .arr (request.ranges.map RangeEntry.toJson))]

def toJson (request : TunnelRequest) : Json :=
  .obj request.fields

end TunnelRequest

namespace StatusReport

def disconnected : StatusReport :=
  ⟨false, none, none, none, none, none⟩

def reader : Json.Reader StatusReport :=
  Json.Record.read "StatusReport" <|
    StatusReport.mk <$> .required "connected" .flag <*> .optional "serverIpv4Gateway" .text
      <*> .optional "deviceIpv4Address" .text <*> .optional "date" .text
      <*> .optional "txBytes" .natural64
      <*> .optional "rxBytes" .natural64

def fields (report : StatusReport) : List (String × Json) :=
  ("connected", .bool report.connected) ::
    optionField "serverIpv4Gateway" .str report.gatewayIpv4 ++
    optionField "deviceIpv4Address" .str report.deviceIpv4 ++ optionField "date" .str report.date ++
    optionField "txBytes" (fun count => natJson count.toNat) report.sent ++
    optionField "rxBytes" (fun count => natJson count.toNat) report.received

def toJson (report : StatusReport) : Json :=
  .obj report.fields

end StatusReport

/-- Reads a message whose `type` names its kind; the other fields are read as that kind says. -/
def readTagged {α : Type} (kinds : List (String × Json.Reader α)) (body : Json) :
    Except Json.Fault α :=
  match body.field? "type" with
  | some (.str kind) =>
    match kinds.lookup kind with
    | some reader => reader .remainder body.toDraft
    | none => .error (.unknownVariant kind (kinds.map (·.1)))
  | some other => .error (.wrongKind other.toDraft.kind "variant identifier")
  | none => .error (.missing "type")

def mapReader {α β : Type} (f : α → β) (reader : Json.Reader α) : Json.Reader β :=
  fun source draft => (reader source draft).map f

namespace ClientMessage

def kind : ClientMessage → String
  | .activate _ => "activate"
  | .deactivate _ => "deactivate"
  | .status => "status"
  | .logs => "logs"
  | .cleanLogs => "cleanlogs"
  | .version => "version"

def fields : ClientMessage → List (String × Json)
  | .activate request => request.fields
  | .deactivate hop => hopField hop
  | _ => []

def toJson (message : ClientMessage) : Json :=
  .obj (("type", .str message.kind) :: message.fields)

def ofJson (body : Json) : Except Json.Fault ClientMessage :=
  readTagged
    [("activate", mapReader .activate TunnelRequest.reader),
      ("deactivate",
        mapReader .deactivate (Json.Record.read "deactivate" (.optional "hopindex" .natural32))),
      ("status", fun _ _ => .ok .status), ("logs", fun _ _ => .ok .logs),
      ("cleanlogs", fun _ _ => .ok .cleanLogs), ("version", fun _ _ => .ok .version)]
    body

end ClientMessage

namespace DaemonMessage

def kind : DaemonMessage → String
  | .connected _ => "connected"
  | .disconnected _ => "disconnected"
  | .backendFailure => "backendFailure"
  | .status _ => "status"
  | .logs _ => "logs"
  | .version _ => "version"

def fields : DaemonMessage → List (String × Json)
  | .connected hop => [("hopindex", natJson hop.toNat)]
  | .disconnected hop => [("hopindex", natJson hop.toNat)]
  | .backendFailure => []
  | .status report => report.fields
  | .logs text => [("logs", .str text)]
  | .version number => [("version", natJson number.toNat)]

def toJson (message : DaemonMessage) : Json :=
  .obj (("type", .str message.kind) :: message.fields)

def ofJson (body : Json) : Except Json.Fault DaemonMessage :=
  readTagged
    [("connected",
        mapReader .connected (Json.Record.read "connected" (.required "hopindex" .natural32))),
      ("disconnected",
        mapReader .disconnected
          (Json.Record.read "disconnected" (.required "hopindex" .natural32))),
      ("backendFailure", fun _ _ => .ok .backendFailure),
      ("status", mapReader .status StatusReport.reader),
      ("logs", mapReader .logs (Json.Record.read "logs" (.required "logs" .text))),
      ("version", mapReader .version (Json.Record.read "version" (.required "version" .natural32)))]
    body

/-- The answer to a log query: one line, with a bar for each line break. -/
def ofLog (raw : String) : DaemonMessage :=
  .logs (String.ofList (raw.toList.map fun c => if c = '\n' then '|' else c))

end DaemonMessage

/-- The hop a message names, the exit hop unless the message names one properly. -/
def hopHint (body : Json) : HopIndex :=
  match (body.field? "hopindex").bind Json.natural? with
  | some n => if n < UInt32.size then UInt32.ofNat n else 0
  | none => 0

end TunnelChain
