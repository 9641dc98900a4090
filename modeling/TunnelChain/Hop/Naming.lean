import TunnelChain.Text.Utf8
import TunnelChain.Wire.Message

namespace TunnelChain

/-- How tunnels are named on the system: the stem alone for the exit hop, the stem and the hop's
number for a relay. -/
structure Naming where
  stem : String
deriving DecidableEq, Repr, Inhabited

namespace Naming

/-- The longest interface name that the system takes, in bytes. -/
def maxBytes : Nat := 15

def name (naming : Naming) (hop : HopIndex) : String :=
  if hop = 0 then naming.stem else naming.stem ++ "hop" ++ toString hop.toNat

end Naming

end TunnelChain
