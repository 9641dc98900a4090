import TunnelChain.Decimal.Natural
import TunnelChain.Endpoint.Search

/-!
Host names that name an address without asking anyone: one to four numbers in decimal, octal or
hexadecimal, of which the last fills the bytes that remain, and an IPv6 address with a scope, which
is dropped. A scope is a number or, where an address is valid on one link alone, the name of the
interface to that link; the loopback interface is the one that every system has.
-/
namespace TunnelChain.HostNumber

/-- A number in hexadecimal after `0x`, in octal after another `0`, in decimal otherwise. -/
def part? (text : List Char) : Option Nat :=
  match text with
  | '0' :: 'x' :: digits => number? 16 digits
  | '0' :: 'X' :: digits => number? 16 digits
  | '0' :: digits => if digits.isEmpty then some 0 else number? 8 digits
  | digits => number? 10 digits
where
  number? (radix : Nat) (text : List Char) : Option Nat :=
    let (digits, rest) := Ip.readDigits radix text
    if digits.isEmpty || !rest.isEmpty then none else some (Ip.ofDigits radix digits)

/-- The address of numbers, the last of which fills the low bytes. -/
def combine? (parts : List Nat) : Option (BitVec 32) :=
  match parts.reverse with
  | [] => none
  | last :: front =>
    let count := front.length
    if 3 < count || front.any (255 < ·) || 1 <<< (8 * (4 - count)) ≤ last then none
    else some (BitVec.ofNat 32
      ((front.reverse.foldl (fun n part => n * 256 + part) 0 <<< (8 * (4 - count))) + last))

def parseV4? (text : String) : Option (BitVec 32) :=
  ((text.splitOn ".").mapM fun part => part? part.toList).bind combine?

/-- Whether an address is valid on one link alone, for one host or for several. -/
def isLinkLocal (address : BitVec 128) : Bool :=
  let head := address.toNat >>> 112
  head / 64 = 0xFE80 / 64 || head / 256 = 0xFF && head % 16 = 2

def loopback : String := "lo"

def isScope (address : BitVec 128) (scope : String) : Bool :=
  isLinkLocal address && scope = loopback ||
    !scope.isEmpty && scope.toList.all Char.isDigit && Decimal.ofDigits scope.toList < UInt32.size

def parseScoped? (text : String) : Option (BitVec 128) :=
  match text.splitOn "%" with
  | [address, scope] => (Ip.parseV6? address).filter fun address => isScope address scope
  | _ => none

def unknown : String :=
  "Name or service not known"

/-- What a lookup brings for a name that only its own form can decide. -/
def lookup (host : String) (port : UInt16) : Lookup :=
  if host.toList.any (·.toNat = 0) then .permanent "host name contains NUL"
  else
    match parseV4? host, parseScoped? host with
    | some value, _ => .found [⟨.v4 value, port⟩]
    | none, some value => .found [⟨.v6 value, port⟩]
    | none, none => .permanent unknown

end TunnelChain.HostNumber
