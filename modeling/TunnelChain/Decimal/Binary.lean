/-!
Binary floating-point values as exact quotients, and their decimal texts: the fewest digits that
read back, and a fixed number of places.
-/
namespace TunnelChain.Decimal

/-- A finite double: `significand * 2 ^ exponent`, negated when `negative`. -/
structure Binary where
  negative : Bool
  significand : Nat
  exponent : Int
deriving DecidableEq, Repr

/-- The leading bit of a normal significand, which a double's bits leave out. -/
def hiddenBit : Nat := 0x10000000000000

/-- The value of a double's bits, `none` for infinities and NaN. -/
def Binary.ofBits? (bits : UInt64) : Option Binary :=
  let n := bits.toNat
  let fraction := n % hiddenBit
  let field := n / hiddenBit % 2048
  let negative := UInt64.size ≤ 2 * n
  if field = 2047 then none
  else if field = 0 then some ⟨negative, fraction, -1074⟩
  else some ⟨negative, hiddenBit + fraction, field - 1075⟩

structure Ratio where
  num : Nat
  den : Nat
deriving DecidableEq, Repr

namespace Ratio

def scale2 (r : Ratio) (power : Int) : Ratio :=
  ⟨r.num <<< power.toNat, r.den <<< (-power).toNat⟩

def scale10 (r : Ratio) (power : Int) : Ratio :=
  ⟨r.num * Nat.pow 10 power.toNat, r.den * Nat.pow 10 (-power).toNat⟩

def floor (r : Ratio) : Nat :=
  r.num / r.den

def lt (a b : Ratio) : Bool :=
  a.num * b.den < b.num * a.den

def le (a b : Ratio) : Bool :=
  a.num * b.den ≤ b.num * a.den

/-- The nearest natural number, the even one of two. -/
def round (r : Ratio) : Nat :=
  let low := r.floor
  let twice := 2 * (r.num % r.den)
  if twice < r.den then low
  else if r.den < twice then low + 1
  else if low % 2 = 0 then low else low + 1

end Ratio

def Binary.magnitude (b : Binary) : Ratio :=
  Ratio.scale2 ⟨b.significand, 1⟩ b.exponent

/-- Whether the double nearest to `r` is `b`: `r` lies between the midpoints to the neighbours,
which belong to an even significand. -/
def Binary.readsBack (b : Binary) (r : Ratio) : Bool :=
  let fourth := Ratio.scale2 ⟨1, 4⟩ b.exponent
  let least := b.significand = hiddenBit && -1074 < b.exponent
  let low : Ratio := ⟨(4 * b.significand - (if least then 1 else 2)) * fourth.num, fourth.den⟩
  let high : Ratio := ⟨(4 * b.significand + 2) * fourth.num, fourth.den⟩
  if b.significand % 2 = 0 then low.le r && r.le high else low.lt r && r.lt high

/-- The power of ten of the leading digit of a positive double. -/
def Binary.leadingPower (b : Binary) : Int :=
  (Nat.toDigits 10 (b.magnitude.scale10 400).floor).length - 401

/-- A decimal numeral with `count` digits that reads back as `b`, the nearer of two, if there is
one. -/
def Binary.numeral? (b : Binary) (count : Nat) : Option (Nat × Int) :=
  let power := b.leadingPower - count + 1
  let exact := b.magnitude.scale10 (-power)
  let low := exact.floor
  let near := exact.round
  let far := if near = low then low + 1 else low
  let reads (n : Nat) := b.readsBack (Ratio.scale10 ⟨n, 1⟩ power)
  if reads near then some (near, power)
  else if reads far then some (far, power)
  else none

/-- Fewest digits that read back, and the power of ten of the last one; 17 digits always do. -/
def Binary.shortest (b : Binary) : Nat × Int :=
  ((List.range 17).findSome? fun i => b.numeral? (i + 1)).getD (b.significand, 0)

def stripZeros (digits : List Char) : List Char × Nat :=
  let kept := (digits.reverse.dropWhile (· = '0')).reverse
  (kept, digits.length - kept.length)

/-- Digits `d₁d₂…` with `point` of them before the decimal point: positional from 10⁻⁵ up to 10¹⁶,
with an exponent otherwise. -/
def layout (digits : List Char) (point : Int) : String :=
  let count : Int := digits.length
  if count ≤ point ∧ point ≤ 16 then
    String.ofList (digits ++ List.replicate (point - count).toNat '0') ++ ".0"
  else if 0 < point ∧ point ≤ 16 then
    String.ofList (digits.take point.toNat) ++ "." ++ String.ofList (digits.drop point.toNat)
  else if -5 < point ∧ point ≤ 0 then
    "0." ++ String.ofList (List.replicate (-point).toNat '0' ++ digits)
  else
    let tail := digits.drop 1
    String.ofList (digits.take 1) ++ (if tail.isEmpty then "" else "." ++ String.ofList tail) ++
      (if 0 < point then "e+" else "e") ++ toString (point - 1)

/-- The text of a finite double with as few digits as read back. -/
def Binary.text (b : Binary) : String :=
  let sign := if b.negative then "-" else ""
  if b.significand = 0 then sign ++ "0.0"
  else
    let (numeral, power) := b.shortest
    let (digits, dropped) := stripZeros (Nat.toDigits 10 numeral)
    sign ++ layout digits (power + dropped + digits.length)

/-- A nonnegative quotient with `places` digits after the point, rounded to the nearest, a tie to
the even digit. -/
def fixed (places : Nat) (r : Ratio) : String :=
  let units := (r.scale10 places).round
  let whole := toString (units / Nat.pow 10 places)
  let part := toString (units % Nat.pow 10 places)
  if places = 0 then whole
  else whole ++ "." ++ String.ofList (List.replicate (places - part.length) '0') ++ part

end TunnelChain.Decimal
