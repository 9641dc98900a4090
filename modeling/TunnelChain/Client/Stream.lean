import TunnelChain.Client.Session

/-!
A client on its connection: a session that hears the lines of a stream, however they are cut, and
does what its owner asks.
-/
namespace TunnelChain

def Transition.append {τ : Type} (first second : Transition τ) : Transition τ :=
  ⟨first.outbound ++ second.outbound, first.events ++ second.events,
    first.replies ++ second.replies, first.log ++ second.log⟩

/-- A session with what has arrived for it; nothing more arrives once the stream has ended. -/
structure Client (τ : Type) where
  session : Session τ
  inbox : Inbox
  isOpen : Bool
deriving DecidableEq, Repr

namespace Client

variable {τ : Type}

def take (client : Client τ) (step : Session τ → Transition τ × Session τ) :
    Transition τ × Client τ :=
  let (transition, session) := step client.session
  (transition, { client with session })

def start : Transition τ × Client τ :=
  Client.take ⟨.fresh, .empty, true⟩ Session.connect

def hearAll (client : Client τ) : List Parcel → Transition τ × Client τ
  | [] => (.none, client)
  | parcel :: rest =>
    let (first, client) := client.take fun session => session.handle parcel
    let (second, client) := client.hearAll rest
    (first.append second, client)

def receive (client : Client τ) (chunk : Bytes) : Transition τ × Client τ :=
  if client.isOpen then
    let (receipts, inbox) := client.inbox.feed chunk
    let (transition, client) := { client with inbox }.hearAll (parcels receipts)
    ({ transition with log := receipts.flatMap (·.log) ++ transition.log }, client)
  else (.none, client)

/-- The stream has ended; an unfinished line is lost. -/
def lose (client : Client τ) : Transition τ × Client τ :=
  if client.isOpen then
    let (transition, client) := { client with isOpen := false }.take Session.fail
    ({ transition with log := ⟨.debug, "Daemon closed the connection"⟩ :: transition.log }, client)
  else (.none, client)

/-- Brings hops down that another client brought up. -/
def deactivateHops (hops : Nat) (session : Session τ) : Transition τ × Session τ :=
  (session.adopt hops).deactivate .stop

end Client

end TunnelChain
