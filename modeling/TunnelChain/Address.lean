/-!
Internet addresses and their texts. A text names one address: four decimal octets without leading
zeros, or eight groups of up to four hexadecimal digits, of which `::` replaces at least one and
whose last two may be written as four octets.
-/
namespace TunnelChain

inductive Family where
  | ipv4
  | ipv6
deriving DecidableEq, Repr, Inhabited

inductive Ip where
  | v4 (value : BitVec 32)
  | v6 (value : BitVec 128)
deriving DecidableEq, Repr, Inhabited

namespace Family

def isIpv6 : Family → Bool
  | .ipv4 => false
  | .ipv6 => true

def ofIsIpv6 (isIpv6 : Bool) : Family :=
  if isIpv6 then .ipv6 else .ipv4

def maxPrefixLength : Family → Nat
  | .ipv4 => 32
  | .ipv6 => 128

def label : Family → String
  | .ipv4 => "Ipv4"
  | .ipv6 => "Ipv6"

end Family

namespace Ip

def family : Ip → Family
  | .v4 _ => .ipv4
  | .v6 _ => .ipv6

def ofOctets (octets : List Nat) : BitVec 32 :=
  BitVec.ofNat 32 (octets.foldl (fun n octet => n * 256 + octet) 0)

def ofGroups (groups : List Nat) : BitVec 128 :=
  BitVec.ofNat 128 (groups.foldl (fun n group => n * 65536 + group) 0)

def octets (value : BitVec 32) : List Nat :=
  [24, 16, 8, 0].map fun shift => (value >>> shift).toNat % 256

def groups (value : BitVec 128) : List Nat :=
  [112, 96, 80, 64, 48, 32, 16, 0].map fun shift => (value >>> shift).toNat % 65536

def digit? (radix : Nat) (c : Char) : Option Nat :=
  let n := c.toNat
  let value :=
    if 48 ≤ n ∧ n ≤ 57 then n - 48
    else if 65 ≤ n ∧ n ≤ 90 then n - 55
    else if 97 ≤ n ∧ n ≤ 122 then n - 87
    else 36
  if value < radix then some value else none

def readDigits (radix : Nat) : List Char → List Nat × List Char
  | [] => ([], [])
  | c :: rest =>
    match digit? radix c with
    | some value => (value :: (readDigits radix rest).1, (readDigits radix rest).2)
    | none => ([], c :: rest)

def ofDigits (radix : Nat) (digits : List Nat) : Nat :=
  digits.foldl (fun n value => n * radix + value) 0

/-- An octet in decimal: at most three digits, and no zero before others. -/
def readOctet (text : List Char) : Option (Nat × List Char) :=
  let (digits, rest) := readDigits 10 text
  let value := ofDigits 10 digits
  if digits.isEmpty || 3 < digits.length || (digits.head? = some 0 && 1 < digits.length) ||
      255 < value then
    none
  else some (value, rest)

/-- A group in hexadecimal: at most four digits. -/
def readGroup (text : List Char) : Option (Nat × List Char) :=
  let (digits, rest) := readDigits 16 text
  if digits.isEmpty || 4 < digits.length then none else some (ofDigits 16 digits, rest)

def readMark (mark : Char) : List Char → Option (List Char)
  | [] => none
  | c :: rest => if c = mark then some rest else none

/-- `count` octets with points between them, the first with a point before it unless `first`. -/
def readOctets (first : Bool) : Nat → List Char → Option (List Nat × List Char)
  | 0, text => some ([], text)
  | count + 1, text => do
    let text ← if first then some text else readMark '.' text
    let (octet, text) ← readOctet text
    let (octets, text) ← readOctets false count text
    some (octet :: octets, text)

def groupsOfOctets : List Nat → List Nat
  | high :: low :: rest => (high * 256 + low) :: groupsOfOctets rest
  | _ => []

/-- At most `room` groups with colons between them, and whether they end in four octets. -/
def readGroups (first : Bool) : Nat → List Char → List Nat × Bool × List Char
  | 0, text => ([], false, text)
  | room + 1, text =>
    match if first then some text else readMark ':' text with
    | none => ([], false, text)
    | some start =>
      match if 1 ≤ room then readOctets true 4 start else none with
      | some (octets, rest) => (groupsOfOctets octets, true, rest)
      | none =>
        match readGroup start with
        | none => ([], false, text)
        | some (group, rest) =>
          let (groups, mixed, rest) := readGroups false room rest
          (group :: groups, mixed, rest)

def parseV4? (text : String) : Option (BitVec 32) :=
  match readOctets true 4 text.toList with
  | some (octets, []) => some (ofOctets octets)
  | _ => none

def parseV6? (text : String) : Option (BitVec 128) :=
  let (head, mixed, rest) := readGroups true 8 text.toList
  if head.length = 8 then (if rest.isEmpty then some (ofGroups head) else none)
  else if mixed then none
  else
    match rest with
    | ':' :: ':' :: rest =>
      let (tail, _, rest) := readGroups true (7 - head.length) rest
      if rest.isEmpty then
        some (ofGroups (head ++ List.replicate (8 - head.length - tail.length) 0 ++ tail))
      else none
    | _ => none

def parse? (text : String) : Option Ip :=
  match parseV4? text with
  | some value => some (.v4 value)
  | none => (parseV6? text).map .v6

def isText (family : Family) (text : String) : Bool :=
  match family with
  | .ipv4 => (parseV4? text).isSome
  | .ipv6 => (parseV6? text).isSome

def textV4 (value : BitVec 32) : String :=
  ".".intercalate ((octets value).map toString)

def hexText (n : Nat) : String :=
  String.ofList (Nat.toDigits 16 n)

def groupsText (groups : List Nat) : String :=
  ":".intercalate (groups.map hexText)

def leadingZeros (groups : List Nat) : Nat :=
  (groups.takeWhile (· = 0)).length

/-- Start and length of the first of the longest runs of zeros. -/
def longestRun (groups : List Nat) : Nat × Nat :=
  (List.range groups.length).foldl
    (fun best start =>
      let length := leadingZeros (groups.drop start)
      if best.2 < length then (start, length) else best)
    (0, 0)

/-- Groups in lower case; the longest run of at least two zeros is `::`, and an address that stands
for an IPv4 address ends in its octets. -/
def textV6 (value : BitVec 128) : String :=
  let all := groups value
  if value >>> 32 = 0xFFFF then "::ffff:" ++ textV4 (value.setWidth 32)
  else
    let (start, length) := longestRun all
    if 1 < length then groupsText (all.take start) ++ "::" ++ groupsText (all.drop (start + length))
    else groupsText all

def text : Ip → String
  | .v4 value => textV4 value
  | .v6 value => textV6 value

/-- The address with a port, an IPv6 address in brackets. -/
def endpointText (ip : Ip) (port : UInt16) : String :=
  match ip with
  | .v4 value => textV4 value ++ ":" ++ toString port
  | .v6 value => "[" ++ textV6 value ++ "]:" ++ toString port

end Ip

end TunnelChain
