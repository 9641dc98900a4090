import TunnelChain.Decimal.Binary

/-!
Amounts of data for people: whole bytes, then kilobytes and megabytes with one place, then gigabytes
with two. A unit is 1024 of the one below.
-/
namespace TunnelChain.Amount

def kilobyte : Nat := 1024

def megabyte : Nat := 1024 * kilobyte

def gigabyte : Nat := 1024 * megabyte

/-- A count of bytes as the nearest double, in units. -/
def inUnits (bytes unit : Nat) : Decimal.Ratio :=
  match Decimal.Binary.ofBits? bytes.toUInt64.toFloat.toBits with
  | some binary => ⟨binary.magnitude.num, binary.magnitude.den * unit⟩
  | none => ⟨bytes, unit⟩

def text (bytes : Nat) : String :=
  if bytes < kilobyte then toString bytes ++ " B"
  else if bytes < megabyte then Decimal.fixed 1 (inUnits bytes kilobyte) ++ " KB"
  else if bytes < gigabyte then Decimal.fixed 1 (inUnits bytes megabyte) ++ " MB"
  else Decimal.fixed 2 (inUnits bytes gigabyte) ++ " GB"

end TunnelChain.Amount
