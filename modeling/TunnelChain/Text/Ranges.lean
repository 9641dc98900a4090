/-!
Sets of code points as tables: the first and last code points of each range, in ascending order.
-/
namespace TunnelChain

abbrev CodeRanges := List (Nat × Nat)

def CodeRanges.has (ranges : CodeRanges) (n : Nat) : Bool :=
  ranges.any fun range => range.1 ≤ n && n ≤ range.2

/-- A table in three parts: up to U+2FFF, from there up to U+FFFF, and past that. -/
structure CodeTable where
  low : CodeRanges
  middle : CodeRanges
  high : CodeRanges

def CodeTable.has (table : CodeTable) (n : Nat) : Bool :=
  if n < 0x3000 then table.low.has n else if n < 0x10000 then table.middle.has n
  else table.high.has n

end TunnelChain
