import Std.Time.DateTime.Timestamp
import TunnelChain.Endpoint.HostNumber
import TunnelChain.Engine.Linux
import TunnelChain.Engine.Memory
import TunnelChain.Log.Filter
import TunnelChain.Operator.Daemon
import TunnelChain.Operator.Errand
import TunnelChain.Service.Connection
import TunnelChain.Service.Dispatch
import TunnelChain.SystemError

/-!
The program. A socket is opened as a file that can be read and written, and carries one connection;
the daemon serves it until its end. Other programs are never there to be run.
-/
namespace TunnelChain.Main

def usage : String :=
  "Usage: hoplink [--socket <SOCKET>] [--verbose] <daemon|status|up|down|logs|clean-logs|version>"

/-- How the system words an error. -/
def reason : IO.Error → String
  | .noFileOrDirectory .. => SystemError.missing.message
  | .permissionDenied .. => SystemError.denied.message
  | .inappropriateType .. => SystemError.isADirectory.message
  | error => toString error

def read (path : String) : IO (Except String Bytes) := do
  try
    return .ok (← IO.FS.readBinFile path).toList
  catch error => return .error (reason error)

def clock : IO Instant := do
  let now := (← Std.Time.Timestamp.now).toNanosecondsSinceUnixEpoch.val.toNat
  return .afterEpoch (now / 1000000000) (now % 1000000000)

def writeTo (stream : IO.FS.Stream) (bytes : Bytes) : IO Unit := do
  stream.write (ByteArray.mk bytes.toArray)
  stream.flush

/-- The lines that a filter lets through, as they are written. -/
def written (level : Level) (stamp : String) (log : List LogLine) : Bytes :=
  (log.filter fun line => (LogFilter.ofLevel level).allows "daemon" line.level).flatMap
    (·.written stamp)

def finish (result : Except Complaint Unit) : IO UInt32 := do
  let (code, text) := Complaint.exit result
  IO.eprint text
  return code.toUInt32

partial def converse (stream : IO.FS.Stream) (level : Level) (dialogue : Errand.Dialogue)
    (messages : List ClientMessage) : IO UInt32 := do
  writeTo stream (messages.flatMap (·.encode))
  writeTo (← IO.getStdout) (written level (← clock).stamp dialogue.log)
  IO.print dialogue.printed
  let dialogue := { dialogue with log := [], printed := "" }
  match dialogue.result? with
  | some result => finish result
  | none =>
    let chunk ← stream.read 4096
    let (messages, dialogue) :=
      if chunk.isEmpty then dialogue.lose else dialogue.receive chunk.toList
    converse stream level dialogue messages

def connect (socket : String) : IO (Except ConnectFailure IO.FS.Stream) := do
  try
    return .ok (.ofHandle (← IO.FS.Handle.mk socket .readWrite))
  catch
    | .noFileOrDirectory .. => return .error .notFound
    | error => return .error (.other (reason error))

def runErrand (invocation : Invocation) (level : Level) : IO UInt32 := do
  let plan ← match invocation.task with
    | .up path => read path
    | _ => pure (.ok [])
  match Errand.ofTask (fun _ => plan) invocation.task with
  | .error complaint => finish (.error complaint)
  | .ok errand =>
    let socket := invocation.socketPath (← read standardSocket).isOk
    match ← connect socket with
    | .error failure => finish (.error (failure.complaint socket))
    | .ok stream =>
      let (messages, dialogue) := errand.start
      converse stream level dialogue messages

def peer : String := "peer"

variable {σ : Type}

/-- Moves what has been logged to standard error and the log buffer. -/
def keepLog (level : Level) (board : Switchboard (Service σ)) : IO (Switchboard (Service σ)) := do
  let service := board.state
  let log := service.core.controller.log ++ board.connections.entries.flatMap (·.2.log)
  let bytes := written level (← clock).stamp log
  writeTo (← IO.getStderr) bytes
  return ⟨{ service with logs := service.logs.append bytes, core.controller.log := [] },
    board.connections.mapValues ({ · with log := [] })⟩

partial def serve (engine : Engine σ) (stream : IO.FS.Stream) (level : Level)
    (board : Switchboard (Service σ)) :
    IO DaemonEnd := do
  let (lines, board) := board.takeWritten peer
  writeTo stream (lines.flatMap (·.encode))
  let board ← keepLog level board
  match board.state.core.fatal with
  | some reason => return .fatal reason
  | none =>
    let chunk ← stream.read 4096
    let now := (← clock).text
    let polled :=
      board.update fun service => { service with core := service.core.poll engine }.takeEvents
    if chunk.isEmpty then
      let _ ← keepLog level
        (polled.update fun service => (service.request engine now .shutdown).2.takeEvents)
      return .told
    else
      serve engine stream level
        (polled.receiveAll (Service.react engine now) [(peer, chunk.toList)])

def runDaemon (engine : Engine σ) (system : σ) (settings : Settings) (level : Level) :
    IO UInt32 := do
  match Service.start engine ⟨settings.stem⟩ settings.logCapacity system with
  | (.error error, _) => finish (.error (.ofStart error))
  | (.ok _, service) =>
    let ending ← try
        let stream ← IO.FS.Handle.mk settings.socketPath .readWrite
        serve engine (.ofHandle stream) level ((Switchboard.fresh service).connect peer true)
      catch error => pure (.unserved (.system (reason error)))
    finish ending.result

/-- A system without programs. -/
def withoutPrograms : Runner Unit :=
  fun _ system => (.unspawned SystemError.missing.message, system)

def setUpDaemon (invocation : Invocation) (file : Option String) (level : Level) : IO UInt32 := do
  let content ← match file with
    | some path => pure (some (path, ← read path))
    | none => pure none
  match Settings.inForce content invocation.socket with
  | .error complaint => finish (.error complaint)
  | .ok settings =>
    if settings.engine.chosen = .memory then runDaemon Memory.engine .fresh settings level
    else
      let linux : LinuxSettings :=
        ⟨settings.mtu, settings.retry, fun host port _ => HostNumber.lookup host port⟩
      runDaemon (Linux.engine linux withoutPrograms) (.fresh ()) settings level

def run (arguments : List String) : IO UInt32 := do
  match Invocation.ofArguments arguments with
  | .error .misuse =>
    IO.eprintln usage
    return Excuse.misuse.exitCode.toUInt32
  | .error excuse =>
    IO.print (if excuse = .release then releaseText else usage ++ "\n")
    return excuse.exitCode.toUInt32
  | .ok invocation =>
    let level := Level.ofVerbose invocation.isVerbose
    match invocation.task with
    | .daemon file => setUpDaemon invocation file level
    | _ => runErrand invocation level

end TunnelChain.Main

def main (arguments : List String) : IO UInt32 :=
  TunnelChain.Main.run arguments
