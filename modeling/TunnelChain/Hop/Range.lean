import TunnelChain.Address

namespace TunnelChain

/-- An allowed range as a message carries it, not yet checked. -/
structure RangeEntry where
  address : String
  length : UInt32
  isIpv6 : Bool
deriving DecidableEq, Repr, Inhabited

/-- A block of addresses routed through a tunnel. -/
structure AddressRange where
  address : String
  length : UInt8
  family : Family
deriving DecidableEq, Repr, Inhabited

namespace AddressRange

def text (range : AddressRange) : String :=
  range.address ++ "/" ++ toString range.length

def ip? (range : AddressRange) : Option Ip :=
  Ip.parse? range.address

def toEntry (range : AddressRange) : RangeEntry :=
  ⟨range.address, range.length.toUInt32, range.family.isIpv6⟩

end AddressRange

end TunnelChain
