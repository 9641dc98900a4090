import TunnelChain.Decimal.Natural
import TunnelChain.Log.Line
import TunnelChain.Log.Pattern
import TunnelChain.Text.Utf8

/-!
Which log lines are written. A filter is a list of rules separated by commas: a level for all
lines, `target=level` for the lines of a target and those below it, or a target alone for all its
lines. Brackets after the target, or instead of it, limit a rule to lines within a span, to lines
that have a field, or to spans whose field has a value; no line is within a span, and the only field
of a line is its text. The most specific rule decides; a line that no rule matches is not written.
-/
namespace TunnelChain

/-- The most minor level that is written, `none` for nothing at all. -/
abbrev Threshold := Option Level

namespace Threshold

def ofNumber : Nat → Option Threshold
  | 0 => some none
  | 1 => some (some .error)
  | 2 => some (some .warn)
  | 3 => some (some .info)
  | 4 => some (some .debug)
  | 5 => some (some .trace)
  | _ => none

def ofText? (text : String) : Option Threshold :=
  match text.toLower with
  | "off" => some none
  | "" => some (some .error)
  | "error" => some (some .error)
  | "warn" => some (some .warn)
  | "info" => some (some .info)
  | "debug" => some (some .debug)
  | "trace" => some (some .trace)
  | lower => (Decimal.natural? lower).bind ofNumber

def allows (threshold : Threshold) (level : Level) : Bool :=
  match threshold with
  | none => false
  | some most => level.rank ≤ most.rank

end Threshold

/-- A rule; one that speaks of spans is dormant, because no line is within one. -/
structure FilterRule where
  target : Option String
  field : Option String
  isDormant : Bool
  threshold : Threshold
deriving DecidableEq, Repr

namespace FilterRule

def isTargetStart (c : Char) : Bool :=
  c = '-' || c = ':' || c = '_' || isLetterOrNumber c

/-- Reads what follows an equals sign; every line is meant where nothing does. -/
def readLevel (level : List Char) : Option Threshold :=
  if level.isEmpty then some (some .trace) else Threshold.ofText? (String.ofList level)

/-- Reads the name of a field, and the value that it must have, if one follows. -/
def readField (target : Option String) (isDormant : Bool) (text : String) : Option FilterRule :=
  match text.toList.dropWhile (· ≠ '=') with
  | [] => some ⟨target, some text, isDormant, some .trace⟩
  | _ :: value =>
    if Pattern.isValue (value.takeWhile (· ≠ '=')) then
      some ⟨target, some (String.ofList (text.toList.takeWhile (· ≠ '='))), true, some .trace⟩
    else none

/-- A rule as it is cut out of a text: the rule without the blanks around it, and how the parts of
it are taken, by the bytes before and in them. -/
structure Cutting where
  inner : List Char
  isBare : Bool
  part : Nat → Nat → Option String

namespace Cutting

/-- Parts are counted from the first character that is not blank but taken from the whole text, so
that blanks before a rule shift them. -/
def ofText (text : String) : Cutting :=
  let inner := trimText text
  ⟨inner.toList, inner = text,
    fun start length => Utf8.decode (((Utf8.encode text).drop start).take length)⟩

/-- Reads what follows the closing bracket of a rule. An equals sign is read only where no blanks
are. -/
def readEnd (cutting : Cutting) (rule : FilterRule) : List Char → Option FilterRule
  | [] => some rule
  | '=' :: level =>
    if cutting.isBare then (readLevel level).map fun threshold => { rule with threshold } else none
  | _ => none

/-- Reads a rule from its opening bracket on, given the text before it. -/
def readBracket (cutting : Cutting) (name inside : List Char) : Option FilterRule :=
  let target :=
    if name.isEmpty then some none else (cutting.part 0 (Utf8.size (String.ofList name))).map some
  let span := inside.takeWhile fun c => c ≠ ']' && c ≠ '\x7b'
  match target, inside.dropWhile fun c => c ≠ ']' && c ≠ '\x7b' with
  | some target, ']' :: rest => cutting.readEnd ⟨target, none, true, some .trace⟩ rest
  | some target, '\x7b' :: rest =>
    let field := rest.takeWhile (· ≠ '\x7d')
    let size (chars : List Char) : Nat := Utf8.size (String.ofList chars)
    match rest.dropWhile (· ≠ '\x7d') with
    | _ :: ']' :: rest =>
      if field.isEmpty then none
      else
        match (cutting.part (size name + size span + 2) (size field)).bind
          (readField target !span.isEmpty) with
        | some rule => cutting.readEnd rule rest
        | none => none
    | _ => none
  | _, _ => none

end Cutting

/-- Reads a rule; a text that is neither a level nor a rule of another form is a target. -/
def ofText? (text : String) : Option FilterRule :=
  let cutting := Cutting.ofText text
  let name := cutting.inner.takeWhile fun c => c ≠ '=' && c ≠ '['
  let rest := cutting.inner.dropWhile fun c => c ≠ '=' && c ≠ '['
  if !name.head?.all isTargetStart then none
  else
    match name, rest with
    | [], [] => none
    | _, [] =>
      match Threshold.ofText? text with
      | some threshold => some ⟨none, none, false, threshold⟩
      | none => some ⟨some text, none, false, some .trace⟩
    | name, '[' :: inside => cutting.readBracket name inside
    | [], _ => none
    | name, _ :: level =>
      if cutting.isBare then
        (readLevel level).map fun threshold => ⟨some (String.ofList name), none, false, threshold⟩
      else none

/-- How specific a rule is: a longer target counts first, then a field. -/
def weight (rule : FilterRule) : Nat :=
  (match rule.target with
    | none => 0
    | some target => 2 * (Utf8.size target + 1)) + (if rule.field.isSome then 1 else 0)

/-- The only field of a line, its text. -/
def lineField : String := "message"

def covers (rule : FilterRule) (target : String) : Bool :=
  !rule.isDormant && rule.field.all (· = lineField) &&
    match rule.target with
    | none => true
    | some start => start.toList.isPrefixOf target.toList

end FilterRule

structure LogFilter where
  rules : List FilterRule
deriving DecidableEq, Repr

namespace LogFilter

def ofLevel (level : Level) : LogFilter :=
  ⟨[⟨none, none, false, some level⟩]⟩

def ofText? (text : String) : Option LogFilter :=
  (((text.splitOn ",").filter fun part => !part.isEmpty).mapM FilterRule.ofText?).map LogFilter.mk

/-- The rule for a target: the most specific one, the later of two alike. -/
def ruleFor (filter : LogFilter) (target : String) : Option FilterRule :=
  (filter.rules.filter (·.covers target)).foldl
    (fun best rule =>
      match best with
      | none => some rule
      | some held => if held.weight ≤ rule.weight then some rule else best)
    none

def allows (filter : LogFilter) (target : String) (level : Level) : Bool :=
  match filter.ruleFor target with
  | some rule => rule.threshold.allows level
  | none => false

/-- The filter in force: the one the environment names, if it names a valid one, and `level` for all
lines otherwise. -/
def inForce (environment : Option String) (level : Level) : LogFilter :=
  (environment.bind ofText?).getD (ofLevel level)

end LogFilter

end TunnelChain
