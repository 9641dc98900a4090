/-!
How long to wait between two lookups. The delay grows by a factor with each retry, up to a limit,
in double arithmetic.
-/
namespace TunnelChain

structure RetryPolicy where
  initialDelay : UInt64
  multiplier : Float
  maxDelay : UInt64
  maxRetries : UInt32
deriving Repr

namespace RetryPolicy

def standard : RetryPolicy :=
  ⟨1000, 1.2, 20000, 15⟩

/-- `done * base ^ count`, by repeated squaring. -/
def power (done base : Float) (count : Nat) : Float :=
  let done := if count % 2 = 1 then done * base else done
  if h : count / 2 = 0 then done else power done (base * base) (count / 2)
termination_by count
decreasing_by omega

/-- The lesser of two doubles; a number rather than NaN. -/
def least (a b : Float) : Float :=
  if a.isNaN then b else if b.isNaN then a else if a < b then a else b

/-- The delay in milliseconds before a retry, the first retry being 0. -/
def delay (policy : RetryPolicy) (retry : Nat) : UInt64 :=
  let factor := power 1 policy.multiplier (min retry 0x7FFFFFFF)
  (least (policy.initialDelay.toFloat * factor) policy.maxDelay.toFloat).round.toUInt64

end RetryPolicy

/-- A span of milliseconds as the log shows it: seconds without trailing zeros from one second
on. -/
def durationText (milliseconds : UInt64) : String :=
  let n := milliseconds.toNat
  if n = 0 then "0ns"
  else if n < 1000 then toString n ++ "ms"
  else
    let part := toString (1000 + n % 1000)
    let digits := ((part.toList.drop 1).reverse.dropWhile (· = '0')).reverse
    toString (n / 1000) ++ (if digits.isEmpty then "" else "." ++ String.ofList digits) ++ "s"

end TunnelChain
