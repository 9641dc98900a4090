import TunnelChain.Engine.Basic

namespace TunnelChain

/-- Why an operation of the daemon did not succeed. -/
inductive OperationError where
  | staleInterface (name : String) (failure : Failure)
  | backend (failure : Failure)
  | invalidRequest (error : TunnelError)
  | notActive (hop : HopIndex)
  | interfaceMissing (name : String)
  | interfaceName (name : String)
  | settings (reason : String)
  | coreStopped
  | connection (reason : String)
  | system (reason : String)
deriving DecidableEq, Repr

namespace OperationError

def message : OperationError → String
  | .staleInterface name failure =>
    "Stale interface " ++ name ++ " could not be removed: " ++ failure.message
  | .backend failure => "Backend error: " ++ failure.message
  | .invalidRequest error => "Invalid activate request: " ++ error.message
  | .notActive hop => "Hop " ++ toString hop.toNat ++ " is not active"
  | .interfaceMissing name => "Interface " ++ name ++ " does not exist"
  | .interfaceName name => "Interface name `" ++ name ++ "` is longer than 15 bytes"
  | .settings reason => "Configuration error: " ++ reason
  | .coreStopped => "Daemon core is not running"
  | .connection reason => "IPC error: " ++ reason
  | .system reason => "IO error: " ++ reason

/-- What is behind an error, outermost first. -/
def causes : OperationError → List String
  | .staleInterface _ failure => [failure.message]
  | .backend failure => [failure.message]
  | .invalidRequest error => [error.message]
  | .system reason => [reason]
  | _ => []

/-- Whether the daemon must stop: an interface that it did not build and cannot remove is in the
way. -/
def isFatal : OperationError → Bool
  | .staleInterface .. => true
  | _ => false

end OperationError

end TunnelChain
