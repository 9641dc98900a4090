import TunnelChain.Text.Utf8

/-!
A bounded window on the newest log. When the bytes exceed the capacity, lines are dropped from the
front up to and including the first line feed at or after the excess; without one nothing is kept.
-/
namespace TunnelChain

structure LogBuffer where
  capacity : Nat
  data : Bytes
deriving DecidableEq, Repr

namespace LogBuffer

def defaultCapacity : Nat := 1024 * 1024

def empty (capacity : Nat) : LogBuffer :=
  ⟨capacity, []⟩

/-- What is kept of `data`. -/
def evict (capacity : Nat) (data : Bytes) : Bytes :=
  if data.length ≤ capacity then data
  else ((data.drop (data.length - capacity)).dropWhile (· ≠ 0x0A)).drop 1

def append (buffer : LogBuffer) (bytes : Bytes) : LogBuffer :=
  { buffer with data := evict buffer.capacity (buffer.data ++ bytes) }

/-- Appends bytes as a writer does, which tells how many of them it has taken. -/
def write (buffer : LogBuffer) (bytes : Bytes) : Nat × LogBuffer :=
  (bytes.length, buffer.append bytes)

def clear (buffer : LogBuffer) : LogBuffer :=
  { buffer with data := [] }

def contents (buffer : LogBuffer) : String :=
  Utf8.decodeLossy buffer.data

end LogBuffer

end TunnelChain
