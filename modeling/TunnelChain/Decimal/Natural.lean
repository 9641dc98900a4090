/-!
Natural numbers as decimal digits. Every number reads back from its own text, and so it does with a
plus sign before it.
-/
namespace TunnelChain.Decimal

/-- The number that digits stand for, the most significant one first. -/
def ofDigits (digits : List Char) : Nat :=
  Nat.ofDigitChars 10 digits 0

/-- Reads a text of digits, with or without a plus sign before them. -/
def natural? (text : String) : Option Nat :=
  let digits :=
    match text.toList with
    | '+' :: digits => digits
    | digits => digits
  if digits.isEmpty || !digits.all Char.isDigit then none else some (ofDigits digits)

theorem ofDigits_toDigits (n : Nat) : ofDigits (Nat.toDigits 10 n) = n :=
  Nat.ofDigitChars_toDigits (by decide) (by decide)

theorem isDigit_of_mem_toDigits {n : Nat} {c : Char} (h : c ∈ Nat.toDigits 10 n) :
    c.isDigit = true :=
  Nat.isDigit_of_mem_toDigits (by decide) (by decide) h

theorem toList_toString (n : Nat) : (toString n).toList = Nat.toDigits 10 n := by
  rw [Nat.toString_eq_repr, Nat.toList_repr]

theorem natural?_toString (n : Nat) : natural? (toString n) = some n := by
  unfold natural?
  rw [toList_toString]
  split
  · rename_i rest hrest
    have hplus := isDigit_of_mem_toDigits (n := n) (c := '+') (by simp [hrest])
    simp at hplus
  · have hall : (Nat.toDigits 10 n).all Char.isDigit = true :=
      List.all_eq_true.mpr fun c hc => isDigit_of_mem_toDigits hc
    have hne : Nat.toDigits 10 n ≠ [] := Nat.toDigits_ne_nil
    simp [hall, hne, ofDigits_toDigits]

end TunnelChain.Decimal
