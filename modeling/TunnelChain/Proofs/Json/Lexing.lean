import Mathlib.Algebra.Ring.Int.Defs
import Mathlib.Algebra.Ring.Nat
import Mathlib.Data.List.Basic
import TunnelChain.Json.Text
import TunnelChain.Json.Token

/-!
# Tokens of written values

A string is escaped character by character and a number is a run of digits, so each is one token
again when it is read, whatever follows it; a number must not be followed by a character that could
belong to it.
-/

namespace TunnelChain.Json

/-! ## Strings -/

theorem hexDigit?_hexDigit : ∀ n < 16, hexDigit? (hexDigit n) = some n := by
  decide

/-- An escaped character reads as one unit that stands for this character. -/
theorem readString_escapeChar (c : Char) (done : List Unit16) (rest : List Char) :
    ∃ unit, readString done (escapeChar c ++ rest) = readString (unit :: done) rest ∧
      ∀ chars units, joinUnits chars (unit :: units) = joinUnits (c :: chars) units := by
  unfold escapeChar
  split
  case h_8 hquote hbackslash _ _ _ _ _ =>
    split
    · rename_i hcontrol
      have hhigh := hexDigit?_hexDigit (c.toNat / 16) (by omega)
      have hlow := hexDigit?_hexDigit (c.toNat % 16) (by omega)
      have hzero : hexDigit? '0' = some 0 := rfl
      have hsum : ((0 * 16 + 0) * 16 + c.toNat / 16) * 16 + c.toNat % 16 = c.toNat := by omega
      have hhex : hex4? '0' '0' (hexDigit (c.toNat / 16)) (hexDigit (c.toNat % 16)) =
          some c.toNat := by
        simp only [hex4?, hzero, hhigh, hlow, hsum]
      refine ⟨.unit c.toNat, ?_, fun chars units => ?_⟩
      · simp only [List.cons_append, List.nil_append, readString, hhex]
      · have hpair : ¬(0xD800 ≤ c.toNat ∧ c.toNat < 0xDC00) := by omega
        have hhalf : ¬(0xDC00 ≤ c.toNat ∧ c.toNat < 0xE000) := by omega
        rw [joinUnits.eq_def]
        dsimp only
        rw [if_neg hpair, if_neg hhalf, Char.ofNat_toNat]
    · rename_i hplain
      refine ⟨.char c, ?_, fun _ _ => rfl⟩
      rw [List.singleton_append, readString, if_neg hplain]
      · exact hquote
      · exact fun _ _ _ _ _ h _ => hbackslash h
      · exact fun _ _ h _ => hbackslash h
  all_goals exact ⟨.char _, rfl, fun _ _ => rfl⟩

theorem readString_flatMap (text : List Char) (done : List Unit16) (rest : List Char) :
    ∃ units, readString done (text.flatMap escapeChar ++ '"' :: rest) =
        some (done.reverse ++ units, rest) ∧
      ∀ chars, joinUnits chars units = some (chars.reverse ++ text) := by
  induction text generalizing done with
  | nil =>
    refine ⟨[], ?_, fun chars => ?_⟩
    · rw [List.flatMap_nil, List.nil_append, readString, List.append_nil]
    · rw [joinUnits, List.append_nil]
  | cons c text ih =>
    obtain ⟨unit, hread, hjoin⟩ :=
      readString_escapeChar c done (text.flatMap escapeChar ++ '"' :: rest)
    obtain ⟨units, hreads, hjoins⟩ := ih (unit :: done)
    refine ⟨unit :: units, ?_, fun chars => ?_⟩
    · rw [List.flatMap_cons, List.append_assoc, hread, hreads, List.reverse_cons, List.append_assoc]
      rfl
    · rw [hjoin, hjoins, List.reverse_cons, List.append_assoc]
      rfl

theorem stringText_append (text : String) (rest : List Char) :
    stringText text ++ rest = '"' :: (text.toList.flatMap escapeChar ++ '"' :: rest) := by
  simp [stringText]

theorem read_stringText (text : String) (rest : List Char) :
    Token.read '"' (text.toList.flatMap escapeChar ++ '"' :: rest) = (.str (some text), rest) := by
  obtain ⟨units, hread, hjoin⟩ := readString_flatMap text.toList [] rest
  have hunits : joinUnits [] units = some text.toList := hjoin []
  rw [List.reverse_nil, List.nil_append] at hread
  simp only [Token.read, hread, hunits, Option.map_some, String.ofList_toList]

/-! ## Numbers -/

/-- Whether a text does not go on with a character that could belong to a number. -/
def Halts (rest : List Char) : Prop :=
  ∀ c ∈ rest.head?, c.isDigit = false ∧ c ≠ '.' ∧ c ≠ 'e' ∧ c ≠ 'E'

theorem halts_nil : Halts [] := by
  intro c hc
  cases hc

theorem halts_cons {c : Char} (hdigit : c.isDigit = false) (hpoint : c ≠ '.') (hlower : c ≠ 'e')
    (hupper : c ≠ 'E') (rest : List Char) : Halts (c :: rest) := by
  intro d hd
  cases hd
  exact ⟨hdigit, hpoint, hlower, hupper⟩

variable {rest : List Char}

theorem digits_append {run : List Char} (hrun : ∀ c ∈ run, c.isDigit = true) (h : Halts rest) :
    digits (run ++ rest) = (run, rest) := by
  have hrest : rest.takeWhile Char.isDigit = [] ∧ rest.dropWhile Char.isDigit = rest := by
    cases rest with
    | nil => exact ⟨rfl, rfl⟩
    | cons c rest =>
      have hdigit := (h c rfl).1
      exact ⟨List.takeWhile_cons_of_neg (by simp [hdigit]),
        List.dropWhile_cons_of_neg (by simp [hdigit])⟩
  rw [digits, List.takeWhile_append_of_pos hrun, List.dropWhile_append_of_pos hrun,
    hrest.1, hrest.2, List.append_nil]

theorem readFraction_halts (h : Halts rest) : readFraction rest = (none, rest) := by
  unfold readFraction
  split
  · exact absurd rfl (h '.' rfl).2.1
  · rfl

theorem readExponent_halts (h : Halts rest) : readExponent rest = (none, rest) := by
  cases rest with
  | nil => rfl
  | cons c rest =>
    obtain ⟨-, -, hlower, hupper⟩ := h c rfl
    simp [readExponent, hlower, hupper]

theorem digitChar_ne_zero : ∀ n < 10, n ≠ 0 → Nat.digitChar n ≠ '0' := by
  decide

/-- Only zero is written with a leading zero. -/
theorem head?_toDigits_ne {n : Nat} (h : n ≠ 0) : (Nat.toDigits 10 n).head? ≠ some '0' := by
  induction n using Nat.strongRecOn with
  | ind n ih =>
    by_cases hlt : n < 10
    · rw [Nat.toDigits_of_lt_base hlt, List.head?_cons]
      exact fun heq => digitChar_ne_zero n hlt h (Option.some.inj heq)
    · rw [Nat.toDigits_of_base_le (by decide) (by omega),
        List.head?_append_of_ne_nil _ Nat.toDigits_ne_nil]
      exact ih (n / 10) (by omega) (by omega)

theorem readNumeral_toDigits (negative : Bool) (n : Nat) (h : Halts rest) :
    readNumeral negative (Nat.toDigits 10 n ++ rest) =
      some (⟨negative, Nat.toDigits 10 n, none, none⟩, rest) := by
  have hdigits := digits_append (fun _ hc => @Decimal.isDigit_of_mem_toDigits n _ hc) h
  have hzero : ((Nat.toDigits 10 n).head? = some '0' && 1 < (Nat.toDigits 10 n).length) =
      false := by
    by_cases hn : n = 0
    · subst hn
      rfl
    · simp [head?_toDigits_ne hn]
  have hempty : (Nat.toDigits 10 n).isEmpty = false := by
    simp
  simp [readNumeral, hdigits, readFraction_halts h, readExponent_halts h, hzero, hempty]

theorem value?_natural (n : Nat) (h : n < UInt64.size) :
    Numeral.value? ⟨false, Nat.toDigits 10 n, none, none⟩ = some (.int n) := by
  simp [Numeral.value?, Decimal.ofDigits_toDigits, h]

theorem value?_negative {n : Nat} (hpos : 0 < n) (h : 2 * n ≤ UInt64.size) :
    Numeral.value? ⟨true, Nat.toDigits 10 n, none, none⟩ = some (.int (-n)) := by
  simp [Numeral.value?, Decimal.ofDigits_toDigits, hpos, h]

theorem read_of_isDigit {c : Char} (h : c.isDigit = true) (rest : List Char) :
    Token.read c rest = Token.read.number false (c :: rest) := by
  unfold Token.read
  split <;> first | rfl | simp at h

theorem toList_toString_nat (n : Nat) : (toString n).toList = Nat.toDigits 10 n := by
  rw [Nat.toString_eq_repr, Nat.toList_repr]

theorem numberText_negSucc (n : Nat) :
    numberText (.int (Int.negSucc n)) = '-' :: Nat.toDigits 10 (n + 1) := by
  have hsign : toString (Int.negSucc n) = "-" ++ toString (n + 1) := rfl
  rw [numberText, hsign, String.toList_append, toList_toString_nat]
  rfl

/-- A written integer of 64 bits is one token, unless more of a number follows. -/
theorem read_numberText {value : Int} (hlow : -2 ^ 63 ≤ value) (hhigh : value < 2 ^ 64)
    (h : Halts rest) :
    ∃ c text, numberText (.int value) = c :: text ∧ isSpace c = false ∧
      Token.read c (text ++ rest) = (.num (some (.int value)), rest) := by
  cases value with
  | ofNat n =>
    obtain ⟨c, text, hdigits⟩ := List.exists_cons_of_ne_nil (@Nat.toDigits_ne_nil n 10)
    have hdigit : c.isDigit = true := @Decimal.isDigit_of_mem_toDigits n c (by simp [hdigits])
    have hfits : n < UInt64.size := by
      change n < 2 ^ 64
      rw [Int.ofNat_eq_natCast] at hhigh
      omega
    refine ⟨c, text, (toList_toString_nat n).trans hdigits, ?_, ?_⟩
    · by_contra hspace
      simp only [isSpace, Bool.or_eq_true, decide_eq_true_eq, Bool.not_eq_false] at hspace
      rcases hspace with ((rfl | rfl) | rfl) | rfl <;> simp at hdigit
    · rw [read_of_isDigit hdigit, Token.read.number, ← List.cons_append, ← hdigits,
        readNumeral_toDigits false n h]
      dsimp only
      rw [value?_natural n hfits]
      rfl
  | negSucc n =>
    have hfits : 2 * (n + 1) ≤ UInt64.size := by
      change 2 * (n + 1) ≤ 2 ^ 64
      omega
    refine ⟨'-', Nat.toDigits 10 (n + 1), numberText_negSucc n, rfl, ?_⟩
    rw [Token.read, Token.read.number, readNumeral_toDigits true (n + 1) h]
    dsimp only
    rw [value?_negative (Nat.succ_pos n) hfits]
    rfl

end TunnelChain.Json
