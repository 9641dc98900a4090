import TunnelChain.Control.Error

/-!
Starting and stopping a server. A server starts once; the signal to stop has one slot, and it is
lost on a server that has ended.
-/
namespace TunnelChain

inductive ListenerStage where
  | idle
  | listening
  | ended
deriving DecidableEq, Repr, Inhabited

structure Listener where
  stage : ListenerStage
  isSignalled : Bool
deriving DecidableEq, Repr, Inhabited

namespace Listener

def fresh : Listener :=
  ⟨.idle, false⟩

def start (listener : Listener) : Except OperationError Listener :=
  if listener.stage = .idle then .ok { listener with stage := .listening }
  else .error (.connection "server already started")

def finish (listener : Listener) : Listener :=
  { listener with stage := .ended }

/-- Sends the signal to stop, if there is a server that will see it and none is under way. -/
def signal (listener : Listener) : Bool × Listener :=
  if listener.stage = .ended || listener.isSignalled then (false, listener)
  else (true, { listener with isSignalled := true })

/-- Asks the server to stop. Tells whether that can be done without waiting: not while another
signal is under way. -/
def stop (listener : Listener) : Bool × Listener :=
  (listener.stage = .ended || !listener.isSignalled, listener.signal.2)

end Listener

/-- A server on a named pipe, which only another system offers. -/
structure PipeServer where
  name : String
  listener : Listener
deriving DecidableEq, Repr

namespace PipeServer

def defaultName : String := "\\\\.\\pipe\\hoplink"

def fresh (name : String) : PipeServer :=
  ⟨name, .fresh⟩

/-- Starting always fails, and uses up the one start. -/
def start (server : PipeServer) : OperationError × PipeServer :=
  match server.listener.start with
  | .error error => (error, server)
  | .ok listener =>
    (.connection "Windows named pipes are only available on Windows",
      { server with listener := listener.finish })

end PipeServer

end TunnelChain
