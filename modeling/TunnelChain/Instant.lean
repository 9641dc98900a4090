import TunnelChain.Decimal.Natural

/-!
Points in time and their texts: a calendar date, a time of day and an offset from universal time.
-/
namespace TunnelChain

/-- A point in universal time. A leap second counts as the second 59 with a thousand million
nanoseconds or more. -/
structure Instant where
  year : Int
  month : Nat
  day : Nat
  hour : Nat
  minute : Nat
  second : Nat
  nanosecond : Nat
deriving DecidableEq, Repr, Inhabited

namespace Instant

def isLeapYear (year : Int) : Bool :=
  year % 4 = 0 && (year % 100 ≠ 0 || year % 400 = 0)

def monthLength (year : Int) (month : Nat) : Nat :=
  if month = 2 then (if isLeapYear year then 29 else 28)
  else if month = 4 || month = 6 || month = 9 || month = 11 then 30
  else 31

/-- The day after, or before, a date, as a change of year, month and day. -/
def nextDay (year : Int) (month day : Nat) : Int × Nat × Nat :=
  if day < monthLength year month then (year, month, day + 1)
  else if month < 12 then (year, month + 1, 1)
  else (year + 1, 1, 1)

def previousDay (year : Int) (month day : Nat) : Int × Nat × Nat :=
  if 1 < day then (year, month, day - 1)
  else if 1 < month then (year, month - 1, monthLength year (month - 1))
  else (year - 1, 12, 31)

/-- Moves an instant by less than a day, so that at most one change of date is due. -/
def addMinutes (instant : Instant) (minutes : Int) : Instant :=
  let total : Int := (instant.hour * 60 + instant.minute : Nat) + minutes
  let (year, month, day) :=
    if total < 0 then previousDay instant.year instant.month instant.day
    else if 1440 ≤ total then nextDay instant.year instant.month instant.day
    else (instant.year, instant.month, instant.day)
  let ofDay := (total % 1440).toNat
  { instant with year, month, day, hour := ofDay / 60, minute := ofDay % 60 }

def readDigits (count : Nat) (text : List Char) : Option (Nat × List Char) :=
  let digits := text.take count
  if digits.length = count && digits.all Char.isDigit then
    some (Decimal.ofDigits digits, text.drop count)
  else none

def readMark (marks : List Char) : List Char → Option (List Char)
  | [] => none
  | c :: rest => if c ∈ marks then some rest else none

/-- Reads a fraction of a second in nanoseconds, if there is one; digits past the ninth are passed
over. -/
def readFraction : List Char → Option (Nat × List Char)
  | '.' :: rest =>
    let digits := rest.takeWhile Char.isDigit
    if digits.isEmpty then none
    else
      let kept := digits.take 9
      some (Decimal.ofDigits kept * Nat.pow 10 (9 - kept.length), rest.dropWhile Char.isDigit)
  | text => some (0, text)

def readOffset : List Char → Option (Int × List Char)
  | [] => none
  | sign :: rest =>
    if sign = 'Z' || sign = 'z' then some (0, rest)
    else if sign = '+' || sign = '-' || sign = '\u2212' then do
      let (hours, rest) ← readDigits 2 rest
      let rest ← readMark [':'] rest
      let (minutes, rest) ← readDigits 2 rest
      if hours < 24 ∧ minutes < 60 then
        let offset : Int := (hours * 60 + minutes : Nat)
        some (if sign = '+' then offset else -offset, rest)
      else none
    else none

/-- Reads a date, a time and an offset; the instant is the one they name in universal time. -/
def parse? (text : String) : Option Instant := do
  let (year, rest) ← readDigits 4 text.toList
  let rest ← readMark ['-'] rest
  let (month, rest) ← readDigits 2 rest
  let rest ← readMark ['-'] rest
  let (day, rest) ← readDigits 2 rest
  let rest ← readMark ['T', 't', ' '] rest
  let (hour, rest) ← readDigits 2 rest
  let rest ← readMark [':'] rest
  let (minute, rest) ← readDigits 2 rest
  let rest ← readMark [':'] rest
  let (second, rest) ← readDigits 2 rest
  let (nanosecond, rest) ← readFraction rest
  let (offset, rest) ← readOffset rest
  if rest.isEmpty ∧ 1 ≤ month ∧ month ≤ 12 ∧ 1 ≤ day ∧ day ≤ monthLength year month ∧
      hour < 24 ∧ minute < 60 ∧ second ≤ 60 then
    let (second, nanosecond) :=
      if second = 60 then (59, nanosecond + 1000000000) else (second, nanosecond)
    some (addMinutes ⟨year, month, day, hour, minute, second, nanosecond⟩ (-offset))
  else none

def padded (width n : Nat) : String :=
  let digits := toString n
  String.ofList (List.replicate (width - digits.length) '0') ++ digits

/-- A year of four digits; one outside of 0 to 9999 has a sign. -/
def yearText (year : Int) : String :=
  if 0 ≤ year ∧ year ≤ 9999 then padded 4 year.toNat
  else (if year < 0 then "-" else "+") ++ padded 4 year.natAbs

/-- A fraction with three, six or nine digits, as few as show it whole. -/
def fractionText (nanosecond : Nat) : String :=
  if nanosecond = 0 then ""
  else if nanosecond % 1000000 = 0 then "." ++ padded 3 (nanosecond / 1000000)
  else if nanosecond % 1000 = 0 then "." ++ padded 6 (nanosecond / 1000)
  else "." ++ padded 9 nanosecond

def clockText (instant : Instant) : String :=
  let second := instant.second + instant.nanosecond / 1000000000
  yearText instant.year ++ "-" ++ padded 2 instant.month ++ "-" ++ padded 2 instant.day ++ "T" ++
    padded 2 instant.hour ++ ":" ++ padded 2 instant.minute ++ ":" ++ padded 2 second ++
    fractionText (instant.nanosecond % 1000000000)

def text (instant : Instant) : String :=
  instant.clockText ++ "+00:00"

/-- The instant as log lines bear it, to the microsecond. -/
def stamp (instant : Instant) : String :=
  { instant with nanosecond := 0 }.clockText ++ "." ++ padded 6 (instant.nanosecond / 1000) ++ "Z"

/-- The date `days` after 1 January 1970. Years are counted from March here, so that a leap day
comes last. -/
def dateAfter (days : Nat) : Int × Nat × Nat :=
  let days := days + 719468
  let ofEra := days % 146097
  let yearOfEra := (ofEra - ofEra / 1460 + ofEra / 36524 - ofEra / 146096) / 365
  let ofYear := ofEra - (365 * yearOfEra + yearOfEra / 4 - yearOfEra / 100)
  let monthFromMarch := (5 * ofYear + 2) / 153
  let day := ofYear - (153 * monthFromMarch + 2) / 5 + 1
  let month := if monthFromMarch < 10 then monthFromMarch + 3 else monthFromMarch - 9
  let year := yearOfEra + days / 146097 * 400 + (if month ≤ 2 then 1 else 0)
  ((year : Nat), month, day)

def afterEpoch (seconds nanoseconds : Nat) : Instant :=
  let (year, month, day) := dateAfter (seconds / 86400)
  ⟨year, month, day, seconds / 3600 % 24, seconds / 60 % 60, seconds % 60, nanoseconds⟩

end Instant

end TunnelChain
