import TunnelChain.Decimal.Natural
import TunnelChain.Json.Basic

/-!
The tokens of a JSON text. A number too large for a double and a string with half a surrogate pair
are complete tokens that denote no value; the first character that fits no token ends the list.
-/
namespace TunnelChain.Json

inductive Token where
  | openArray
  | closeArray
  | openObject
  | closeObject
  | comma
  | colon
  | null
  | bool (value : Bool)
  | num (value : Option Number)
  | str (value : Option String)
  | bad
deriving Repr, Inhabited

/-- A number as written: its sign, its digits before and after the point, and its exponent. -/
structure Numeral where
  negative : Bool
  whole : List Char
  fraction : Option (List Char)
  exponent : Option (Bool × List Char)
deriving Repr

namespace Numeral

/-- Appends digits as long as the result fits in 64 bits; answers with the number of digits
taken. -/
def absorb (significand taken : Nat) : List Char → Nat × Nat
  | [] => (significand, taken)
  | c :: rest =>
    let next := 10 * significand + (c.toNat - 48)
    if next < UInt64.size then absorb next (taken + 1) rest else (significand, taken)

/-- `value * 10 ^ power` in double arithmetic, dividing in steps of at most 10³⁰⁸; `none` when it is
too large. -/
def scale (value : Float) (power : Int) : Option Float :=
  let ten (n : Nat) : Float := Float.ofScientific 1 false n
  if 308 < power then (if value == 0 then some 0 else none)
  else if 0 ≤ power then
    let scaled := value * ten power.toNat
    if scaled.isInf then none else some scaled
  else if -308 ≤ power then some (value / ten (-power).toNat)
  else if -616 ≤ power then some (value / ten 308 / ten (-power - 308).toNat)
  else some 0

def wholeFraction (n : Numeral) : List Char :=
  n.fraction.getD []

/-- The double of a number: the leading digits that fit in 64 bits, scaled by a power of ten. -/
def toFloat? (n : Numeral) : Option Float :=
  let (whole, wholeTaken) := absorb 0 0 n.whole
  let (significand, taken) := absorb whole 0 n.wholeFraction
  let point : Int := (n.whole.length : Int) - wholeTaken - taken
  let magnitude :=
    match n.exponent with
    | none => scale significand.toFloat point
    | some (negative, digits) =>
      let shift := Decimal.ofDigits digits
      if 0x80000000 ≤ shift then (if significand = 0 || negative then some 0 else none)
      else scale significand.toFloat (if negative then point - shift else point + shift)
  magnitude.map fun value => if n.negative then -value else value

def value? (n : Numeral) : Option Number :=
  let size := Decimal.ofDigits n.whole
  if n.fraction.isNone && n.exponent.isNone && !n.negative && size < UInt64.size then
    some (.int size)
  else if n.fraction.isNone && n.exponent.isNone && n.negative && 0 < size &&
      2 * size ≤ UInt64.size then
    some (.int (-size))
  else n.toFloat?.map .float

end Numeral

def digits (text : List Char) : List Char × List Char :=
  (text.takeWhile Char.isDigit, text.dropWhile Char.isDigit)

def readFraction : List Char → Option (List Char) × List Char
  | '.' :: rest => (some (digits rest).1, (digits rest).2)
  | text => (none, text)

def readSign : List Char → Bool × List Char
  | '+' :: rest => (false, rest)
  | '-' :: rest => (true, rest)
  | text => (false, text)

/-- Reads the sign and digits after an exponent mark, if there is one. -/
def readExponent : List Char → Option (Bool × List Char) × List Char
  | [] => (none, [])
  | c :: rest =>
    if c = 'e' || c = 'E' then
      (some ((readSign rest).1, (digits (readSign rest).2).1), (digits (readSign rest).2).2)
    else (none, c :: rest)

/-- Reads a number whose sign has been read: no digit follows a leading zero, and a point and an
exponent mark are each followed by a digit. -/
def readNumeral (negative : Bool) (text : List Char) : Option (Numeral × List Char) :=
  let (whole, rest) := digits text
  let (fraction, rest) := readFraction rest
  let (exponent, rest) := readExponent rest
  if whole.isEmpty || (whole.head? = some '0' && 1 < whole.length) then none
  else if fraction = some [] || exponent.any (·.2.isEmpty) then none
  else some (⟨negative, whole, fraction, exponent⟩, rest)

/-- A character of a string, or the code unit of an escape. -/
inductive Unit16 where
  | char (c : Char)
  | unit (n : Nat)
deriving DecidableEq, Repr

def hexDigit? (c : Char) : Option Nat :=
  let n := c.toNat
  if 48 ≤ n ∧ n ≤ 57 then some (n - 48)
  else if 65 ≤ n ∧ n ≤ 70 then some (n - 55)
  else if 97 ≤ n ∧ n ≤ 102 then some (n - 87)
  else none

def hex4? (a b c d : Char) : Option Nat :=
  match hexDigit? a, hexDigit? b, hexDigit? c, hexDigit? d with
  | some a, some b, some c, some d => some (((a * 16 + b) * 16 + c) * 16 + d)
  | _, _, _, _ => none

def escaped? (c : Char) : Option Char :=
  match c with
  | '"' => some '"'
  | '\\' => some '\\'
  | '/' => some '/'
  | 'b' => some '\x08'
  | 'f' => some '\x0c'
  | 'n' => some '\n'
  | 'r' => some '\r'
  | 't' => some '\t'
  | _ => none

/-- Reads a string up to its closing quote; `done` holds what precedes, the latest first. -/
def readString (done : List Unit16) : List Char → Option (List Unit16 × List Char)
  | [] => none
  | '"' :: rest => some (done.reverse, rest)
  | '\\' :: 'u' :: a :: b :: c :: d :: rest =>
    match hex4? a b c d with
    | some n => readString (.unit n :: done) rest
    | none => none
  | '\\' :: c :: rest =>
    match escaped? c with
    | some plain => readString (.char plain :: done) rest
    | none => none
  | c :: rest => if c.toNat < 0x20 then none else readString (.char c :: done) rest

/-- Joins surrogate pairs; half a pair has no character. -/
def joinUnits (done : List Char) : List Unit16 → Option (List Char)
  | [] => some done.reverse
  | .char c :: rest => joinUnits (c :: done) rest
  | .unit high :: rest =>
    if 0xD800 ≤ high ∧ high < 0xDC00 then
      match rest with
      | .unit low :: rest =>
        if 0xDC00 ≤ low ∧ low < 0xE000 then
          joinUnits (Char.ofNat (0x10000 + (high - 0xD800) * 0x400 + (low - 0xDC00)) :: done) rest
        else none
      | _ => none
    else if 0xDC00 ≤ high ∧ high < 0xE000 then none
    else joinUnits (Char.ofNat high :: done) rest

def readWord (word : String) (token : Token) (text : List Char) : Token × List Char :=
  if word.toList.isPrefixOf text then (token, text.drop word.length) else (.bad, [])

/-- The token that begins with `c`, and the text after it; nothing follows a bad token. -/
def Token.read (c : Char) (rest : List Char) : Token × List Char :=
  match c with
  | '[' => (.openArray, rest)
  | ']' => (.closeArray, rest)
  | '\x7b' => (.openObject, rest)
  | '\x7d' => (.closeObject, rest)
  | ',' => (.comma, rest)
  | ':' => (.colon, rest)
  | 'n' => readWord "ull" .null rest
  | 't' => readWord "rue" (.bool true) rest
  | 'f' => readWord "alse" (.bool false) rest
  | '"' =>
    match readString [] rest with
    | some (units, rest) => (.str ((joinUnits [] units).map String.ofList), rest)
    | none => (.bad, [])
  | '-' => number true rest
  | c => number false (c :: rest)
where
  number (negative : Bool) (text : List Char) : Token × List Char :=
    match readNumeral negative text with
    | some (numeral, rest) => (.num numeral.value?, rest)
    | none => (.bad, [])

def isSpace (c : Char) : Bool :=
  c = ' ' || c = '\t' || c = '\n' || c = '\r'

theorem length_digits_le (text : List Char) : (digits text).2.length ≤ text.length :=
  (List.dropWhile_sublist _).length_le

theorem length_digits_add (text : List Char) :
    (digits text).1.length + (digits text).2.length = text.length := by
  rw [digits, ← List.length_append, List.takeWhile_append_dropWhile]

theorem length_readFraction_le (text : List Char) : (readFraction text).2.length ≤ text.length := by
  unfold readFraction
  split
  · exact Nat.le_trans (length_digits_le _) (Nat.le_succ _)
  · exact Nat.le_refl _

theorem length_readSign_le (text : List Char) : (readSign text).2.length ≤ text.length := by
  unfold readSign
  split <;> simp

theorem length_readExponent_le (text : List Char) : (readExponent text).2.length ≤ text.length := by
  unfold readExponent
  split
  · exact Nat.le_refl _
  · split
    · exact Nat.le_trans (Nat.le_trans (length_digits_le _) (length_readSign_le _)) (Nat.le_succ _)
    · exact Nat.le_refl _

theorem length_lt_of_readNumeral {negative : Bool} {text rest : List Char} {n : Numeral}
    (h : readNumeral negative text = some (n, rest)) : rest.length < text.length := by
  unfold readNumeral at h
  dsimp only at h
  split at h
  · simp at h
  · rename_i hwhole
    split at h
    · simp at h
    · simp only [Option.some.injEq, Prod.mk.injEq] at h
      have hexponent := length_readExponent_le (readFraction (digits text).2).2
      have hfraction := length_readFraction_le (digits text).2
      have hdigits := length_digits_add text
      have hpos : 0 < (digits text).1.length := by
        apply List.length_pos_iff.mpr
        intro hnil
        simp [hnil] at hwhole
      rw [← h.2]
      omega

theorem length_le_of_readString {done : List Unit16} {text rest : List Char} {units : List Unit16}
    (h : readString done text = some (units, rest)) : rest.length ≤ text.length := by
  fun_induction readString done text <;> simp_all <;> omega

theorem length_readWord_le (word : String) (token : Token) (text : List Char) :
    (readWord word token text).2.length ≤ text.length := by
  unfold readWord
  split <;> simp

theorem Token.length_number_lt (negative : Bool) (text : List Char) :
    (Token.read.number negative text).2.length ≤ text.length - 1 := by
  unfold Token.read.number
  split
  · rename_i h
    have := length_lt_of_readNumeral h
    simp only
    omega
  · simp

theorem Token.length_read_le (c : Char) (rest : List Char) :
    (Token.read c rest).2.length ≤ rest.length := by
  unfold Token.read
  split <;> try exact Nat.le_refl _
  · exact length_readWord_le _ _ _
  · exact length_readWord_le _ _ _
  · exact length_readWord_le _ _ _
  · split
    · rename_i h
      exact length_le_of_readString h
    · simp
  · exact Nat.le_trans (Token.length_number_lt _ _) (Nat.sub_le _ _)
  · exact Token.length_number_lt _ _

def tokens : List Char → List Token
  | [] => []
  | c :: rest =>
    if isSpace c then tokens rest
    else
      have := Token.length_read_le c rest
      (Token.read c rest).1 :: tokens (Token.read c rest).2
termination_by text => text.length
decreasing_by all_goals simp_wf <;> omega

end TunnelChain.Json
