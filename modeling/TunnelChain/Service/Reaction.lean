import TunnelChain.Wire.Line

/-!
Messages with consequences: the replies that only the sender sees, and the events that everyone
connected is told of.
-/
namespace TunnelChain

structure Reaction (σ : Type) where
  replies : List DaemonMessage
  events : List DaemonMessage
  state : σ

abbrev Handler (σ : Type) := Parcel → σ → Reaction σ

/-- The events that a subscriber has yet to take. Only the newest are kept; `missed` counts the
older ones that are lost. -/
structure Backlog where
  missed : Nat
  events : List DaemonMessage
deriving DecidableEq, Repr

namespace Backlog

/-- How many events a subscriber may be behind. -/
def capacity : Nat := 64

def empty : Backlog :=
  ⟨0, []⟩

def push (backlog : Backlog) (event : DaemonMessage) : Backlog :=
  if backlog.events.length < capacity then { backlog with events := backlog.events ++ [event] }
  else ⟨backlog.missed + 1, backlog.events.drop 1 ++ [event]⟩

def pushAll (backlog : Backlog) (events : List DaemonMessage) : Backlog :=
  events.foldl push backlog

end Backlog

end TunnelChain
