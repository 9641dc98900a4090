import TunnelChain.Operator.Complaint
import TunnelChain.Settings

/-!
How the daemon is set up and how it ends.
-/
namespace TunnelChain

inductive BindFailure where
  | system (reason : String)
  | refused (reason : String)
deriving DecidableEq, Repr, Inhabited

def BindFailure.error : BindFailure → OperationError
  | .system reason => .system reason
  | .refused reason => .connection ("Failed to bind: " ++ reason)

/-- How a daemon comes to an end: it is told to stop, its core has stopped, or it cannot serve. -/
inductive DaemonEnd where
  | told
  | fatal (reason : String)
  | unserved (failure : BindFailure)
deriving DecidableEq, Repr, Inhabited

def DaemonEnd.result : DaemonEnd → Except Complaint Unit
  | .told => .ok ()
  | .fatal reason => .error (.plain ("Daemon core stopped: " ++ reason))
  | .unserved failure => .error (.ofOperation "IPC server failed" failure.error)

/-- The settings in force: those of a file, if one is named, with the socket of the command line, if
one is given. -/
def Settings.inForce (file : Option (String × Except String Bytes)) (socket : Option String) :
    Except Complaint Settings :=
  let loaded : Except Complaint Settings :=
    match file with
    | none => .ok .standard
    | some (path, content) =>
      (load path content).mapError (.ofOperation ("Failed to load config " ++ path))
  match loaded with
  | .error complaint => .error complaint
  | .ok settings =>
    let settings := { settings with socketPath := socket.getD settings.socketPath }
    settings.validate.mapError (.ofOperation "Invalid daemon configuration")

def Complaint.ofStart (error : OperationError) : Complaint :=
  .ofOperation "Failed to start daemon core" error

end TunnelChain
