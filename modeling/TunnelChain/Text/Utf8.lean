/-!
Text as bytes. Reading cuts a byte string into characters and ill-formed parts, each part as long
as it could still have become a character; strict reading refuses such parts, lenient reading shows
the replacement character for each.
-/
namespace TunnelChain

abbrev Bytes := List UInt8

namespace Utf8

/-- The bytes of a character: the high bits in the leading byte, then six bits in each tail byte. -/
def encodeChar (c : Char) : Bytes :=
  let n := c.toNat
  if n < 0x80 then [UInt8.ofNat n]
  else if n < 0x800 then [UInt8.ofNat (0xC0 + n / 64), UInt8.ofNat (0x80 + n % 64)]
  else if n < 0x10000 then
    [UInt8.ofNat (0xE0 + n / 4096), UInt8.ofNat (0x80 + n / 64 % 64), UInt8.ofNat (0x80 + n % 64)]
  else
    [UInt8.ofNat (0xF0 + n / 262144), UInt8.ofNat (0x80 + n / 4096 % 64),
      UInt8.ofNat (0x80 + n / 64 % 64), UInt8.ofNat (0x80 + n % 64)]

def encode (text : String) : Bytes :=
  text.toList.flatMap encodeChar

def size (text : String) : Nat :=
  (encode text).length

/-- A character whose leading byte has been read: the tail bytes still owed, the bounds of the next
one, and the bits so far. -/
structure Partial where
  owed : Nat
  low : Nat
  high : Nat
  bits : Nat
deriving DecidableEq, Repr

/-- What a byte between characters begins; the bounds leave out overlong forms, surrogates and
everything past U+10FFFF. -/
def lead (byte : Nat) : Option Partial :=
  if 0xC2 ≤ byte ∧ byte ≤ 0xDF then some ⟨1, 0x80, 0xBF, byte - 0xC0⟩
  else if byte = 0xE0 then some ⟨2, 0xA0, 0xBF, 0⟩
  else if byte = 0xED then some ⟨2, 0x80, 0x9F, 0xD⟩
  else if 0xE1 ≤ byte ∧ byte ≤ 0xEF then some ⟨2, 0x80, 0xBF, byte - 0xE0⟩
  else if byte = 0xF0 then some ⟨3, 0x90, 0xBF, 0⟩
  else if 0xF1 ≤ byte ∧ byte ≤ 0xF3 then some ⟨3, 0x80, 0xBF, byte - 0xF0⟩
  else if byte = 0xF4 then some ⟨3, 0x80, 0x8F, 4⟩
  else none

/-- The parts read so far, the latest first (a character as `some`, an ill-formed part as `none`),
and the character under way. -/
structure Reader where
  parts : List (Option Char)
  current : Option Partial
deriving DecidableEq, Repr

namespace Reader

def start : Reader :=
  ⟨[], none⟩

/-- Takes a byte that stands between characters. -/
def first (reader : Reader) (byte : UInt8) : Reader :=
  if byte < 0x80 then ⟨some (Char.ofNat byte.toNat) :: reader.parts, none⟩
  else match lead byte.toNat with
    | some part => ⟨reader.parts, some part⟩
    | none => ⟨none :: reader.parts, none⟩

/-- Takes the next byte: it continues the character under way, or cuts it off and stands between
characters. -/
def step (reader : Reader) (byte : UInt8) : Reader :=
  match reader.current with
  | none => reader.first byte
  | some part =>
    if part.low ≤ byte.toNat ∧ byte.toNat ≤ part.high then
      let bits := part.bits * 64 + (byte.toNat - 0x80)
      if part.owed = 1 then ⟨some (Char.ofNat bits) :: reader.parts, none⟩
      else ⟨reader.parts, some ⟨part.owed - 1, 0x80, 0xBF, bits⟩⟩
    else Reader.first ⟨none :: reader.parts, none⟩ byte

/-- The parts in order; a character cut off by the end is ill-formed. -/
def finish (reader : Reader) : List (Option Char) :=
  (if reader.current.isSome then none :: reader.parts else reader.parts).reverse

end Reader

def pieces (bytes : Bytes) : List (Option Char) :=
  (bytes.foldl Reader.step Reader.start).finish

def decode (bytes : Bytes) : Option String :=
  (pieces bytes).mapM id |>.map String.ofList

/-- Reads any bytes, with U+FFFD for each ill-formed part. -/
def decodeLossy (bytes : Bytes) : String :=
  String.ofList ((pieces bytes).map (·.getD '\uFFFD'))

end Utf8

end TunnelChain
