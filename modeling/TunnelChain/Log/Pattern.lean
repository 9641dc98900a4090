import TunnelChain.Json.Token
import TunnelChain.Text.Blank
import TunnelChain.Text.Letters

/-!
The form of patterns for the values of fields: regular expressions with groups, classes,
repetitions and flags. Nothing is ever matched against a pattern here, but a text that is no pattern
makes the filter unreadable that holds it. Classes of letters are known for ASCII alone, so that a
class by name, a word boundary or a disregard for case needs the flag for all scripts turned off.
-/
namespace TunnelChain.Pattern

/-- The flags in force: whether characters of all scripts are meant, whether case is disregarded,
and whether blanks and comments are passed over. -/
structure Flags where
  allScripts : Bool
  anyCase : Bool
  spaced : Bool
deriving DecidableEq, Repr

namespace Flags

def standard : Flags :=
  ⟨true, false, false⟩

def set (flags : Flags) (letter : Char) (value : Bool) : Flags :=
  match letter with
  | 'u' => { flags with allScripts := value }
  | 'i' => { flags with anyCase := value }
  | 'x' => { flags with spaced := value }
  | _ => flags

/-- Passes over blanks and over comments, which end with their line. -/
def skip (inComment : Bool) : List Char → List Char
  | [] => []
  | c :: rest =>
    if inComment then skip (c ≠ '\n') rest
    else if c = '#' then skip true rest
    else if isBlank c then skip false rest
    else c :: rest

def next (flags : Flags) (text : List Char) : List Char :=
  if flags.spaced then skip false text else text

end Flags

/-- What one character or escape stands for: a character, which a code of two digits gives as a
byte, a class by name, a place in the text, or the edge of a word. -/
inductive Atom where
  | char (c : Char) (isByte : Bool)
  | named (negated : Bool)
  | place
  | edge
deriving DecidableEq, Repr

namespace Atom

def isAllowed (flags : Flags) : Atom → Bool
  | .char c isByte => if flags.allScripts then !flags.anyCase else !isByte || c.toNat < 0x80
  | .named negated => !flags.allScripts && !negated
  | .place => true
  | .edge => !flags.allScripts

def isAllowedInClass (flags : Flags) : Atom → Bool
  | .char c _ => flags.allScripts || c.toNat < 0x80
  | .named negated => !flags.allScripts && !negated
  | _ => false

end Atom

/-- Reads a character code of as many digits. -/
def readCode (flags : Flags) (count code : Nat) (text : List Char) : Option (Char × List Char) :=
  match count with
  | 0 => if code.isValidChar then some (Char.ofNat code, text) else none
  | count + 1 =>
    match flags.next text with
    | [] => none
    | c :: rest =>
      match Json.hexDigit? c with
      | some digit => readCode flags count (code * 16 + digit) rest
      | none => none

def readEscape (flags : Flags) : List Char → Option (Atom × List Char)
  | [] => none
  | c :: rest =>
    if c = 'x' then (readCode flags 2 0 rest).map fun (c, rest) => (.char c true, rest)
    else if c = 'u' then (readCode flags 4 0 rest).map fun (c, rest) => (.char c false, rest)
    else if c = 'U' then (readCode flags 8 0 rest).map fun (c, rest) => (.char c false, rest)
    else if c = 'd' || c = 's' || c = 'w' then some (.named false, rest)
    else if c = 'D' || c = 'S' || c = 'W' then some (.named true, rest)
    else if c = 'A' || c = 'z' then some (.place, rest)
    else if c = 'b' || c = 'B' || c = '<' || c = '>' then some (.edge, rest)
    else if c.toNat < 0x80 && (!c.isAlphanum || "aftnrv".toList.contains c) then
      some (.char c false, rest)
    else none

def readAtom (flags : Flags) : List Char → Option (Atom × List Char)
  | [] => none
  | '\\' :: rest => readEscape flags rest
  | c :: rest => some (.char c false, rest)

/-! Classes between brackets. -/

/-- The classes that may be named between brackets within a class. -/
def classNames : List String :=
  ["alnum", "alpha", "ascii", "blank", "cntrl", "digit", "graph", "lower", "print", "punct",
    "space", "upper", "word", "xdigit"]

/-- Reads the name of a class after its bracket, and whether the class is negated. -/
def readClassName (text : List Char) : Option (Bool × List Char) :=
  let readName (negated : Bool) (text : List Char) : Option (Bool × List Char) :=
    match text.dropWhile (· ≠ ':') with
    | ':' :: ']' :: rest =>
      if String.ofList (text.takeWhile (· ≠ ':')) ∈ classNames then some (negated, rest) else none
    | _ => none
  match text with
  | ':' :: '^' :: rest => readName true rest
  | ':' :: rest => readName false rest
  | _ => none

/-- Reads the start of a class after its bracket: a caret negates it, and hyphens, or else a closing
bracket, stand for themselves there. -/
def openClass (flags : Flags) (text : List Char) : Option (List Char) :=
  let text := flags.next text
  let negated := text.head? = some '^'
  let text := if negated then flags.next (text.drop 1) else text
  let hyphenless := text.dropWhile fun c => c = '-' || flags.spaced && isBlank c
  let text :=
    if text.head? = some '-' then hyphenless
    else if text.head? = some ']' then text.drop 1
    else text
  if negated && !flags.allScripts then none else some text

/-- Reads a character, or a range of characters in ascending order, within a class. -/
def readRange (flags : Flags) (text : List Char) : Option (List Char) :=
  match readAtom flags text with
  | none => none
  | some (first, rest) =>
    match flags.next rest with
    | '-' :: after =>
      let closes := (flags.next after).head?
      if closes = some ']' || closes = some '-' then
        if first.isAllowedInClass flags then some ('-' :: after) else none
      else
        match first, readAtom flags (flags.next after) with
        | .char low isByte, some (.char high _, rest) =>
          if low ≤ high && (Atom.char low isByte).isAllowedInClass flags &&
              (Atom.char high false).isAllowedInClass flags
          then some rest
          else none
        | _, _ => none
    | rest => if first.isAllowedInClass flags then some rest else none

/-- Reads a class of which `depth` brackets are open up to the last closing bracket, in at most
`fuel` parts. -/
def readClass (flags : Flags) (fuel depth : Nat) (text : List Char) : Option (List Char) :=
  match fuel with
  | 0 => none
  | fuel + 1 =>
    match flags.next text with
    | [] => none
    | ']' :: rest => if depth ≤ 1 then some rest else readClass flags fuel (depth - 1) rest
    | '&' :: '&' :: rest => readClass flags fuel depth rest
    | '-' :: '-' :: rest => readClass flags fuel depth rest
    | '~' :: '~' :: rest => readClass flags fuel depth rest
    | '[' :: rest =>
      match readClassName rest with
      | some (negated, rest) =>
        if negated && !flags.allScripts then none else readClass flags fuel depth rest
      | none => (openClass flags rest).bind (readClass flags fuel (depth + 1))
    | text => (readRange flags text).bind (readClass flags fuel depth)

/-! Groups. -/

/-- Reads flags up to the colon or parenthesis that ends them; no flag is given twice, and a hyphen
turns the flags after it off. -/
def readFlags (given : List Char) (flags : Flags) :
    List Char → Option (List Char × Flags × List Char)
  | [] => none
  | c :: rest =>
    if c = ':' || c = ')' then
      (if given.head? = some '-' then none else some (given, flags, c :: rest))
    else if c ∈ given || !"-imsUuRx".toList.contains c then none
    else readFlags (c :: given) (flags.set c ('-' ∉ given)) rest

def isNameStart (c : Char) : Bool :=
  c = '_' || isLetter c

def isNamePart (c : Char) : Bool :=
  c = '_' || c = '.' || c = '[' || c = ']' || isLetterOrNumber c

/-- Reads the name of a group up to the bracket that closes it. -/
def readName (text : List Char) : Option (List Char × List Char) :=
  let name := text.takeWhile (· ≠ '>')
  match name, text.dropWhile (· ≠ '>') with
  | first :: others, _ :: rest =>
    if isNameStart first && others.all isNamePart then some (name, rest) else none
  | _, _ => none

/-- A pattern read so far: the flags in force, those outside each open group, the names of groups,
and whether something stands there that can be repeated. -/
structure State where
  flags : Flags
  outer : List Flags
  names : List (List Char)
  isRepeatable : Bool

namespace State

def start : State :=
  ⟨.standard, [], [], false⟩

def enter (state : State) (flags : Flags) : State :=
  { state with flags, outer := state.flags :: state.outer, isRepeatable := false }

def named (state : State) (text : List Char) : Option (State × List Char) :=
  match readName text with
  | some (name, rest) =>
    if name ∈ state.names then none
    else some ({ state.enter state.flags with names := name :: state.names }, rest)
  | none => none

/-- Reads what follows an opening parenthesis. Nothing may be asked of the text before or behind. -/
def group (state : State) (text : List Char) : Option (State × List Char) :=
  match state.flags.next text with
  | '?' :: '=' :: _ => none
  | '?' :: '!' :: _ => none
  | '?' :: '<' :: '=' :: _ => none
  | '?' :: '<' :: '!' :: _ => none
  | '?' :: 'P' :: '<' :: rest => state.named rest
  | '?' :: '<' :: rest => state.named rest
  | '?' :: rest =>
    match readFlags [] state.flags rest with
    | some (_, flags, ':' :: rest) => some (state.enter flags, rest)
    | some (_ :: _, flags, _ :: rest) => some ({ state with flags, isRepeatable := false }, rest)
    | _ => none
  | text => some (state.enter state.flags, text)

/-- Reads the part of a pattern that begins with `c`. -/
def part (state : State) (c : Char) (rest : List Char) : Option (State × List Char) :=
  let repeatable := { state with isRepeatable := true }
  match c with
  | '(' => state.group rest
  | ')' =>
    match state.outer with
    | [] => none
    | flags :: outer => some ({ repeatable with flags, outer }, rest)
  | '|' => some ({ state with isRepeatable := false }, rest)
  | '[' =>
    if state.flags.allScripts && state.flags.anyCase then none
    else ((openClass state.flags rest).bind (readClass state.flags rest.length 1)).map fun rest =>
      (repeatable, rest)
  | '{' => none
  | '.' => if state.flags.allScripts then some (repeatable, rest) else none
  | '^' => some (repeatable, rest)
  | '$' => some (repeatable, rest)
  | c =>
    if c = '?' || c = '*' || c = '+' then
      if state.isRepeatable then
        some (state, if rest.head? = some '?' then rest.drop 1 else rest) else none
    else
      match readAtom state.flags (c :: rest) with
      | some (atom, rest) => if atom.isAllowed state.flags then some (repeatable, rest) else none
      | none => none

/-- Reads a pattern to its end in at most `fuel` parts; every group must be closed there. -/
def isComplete (fuel : Nat) (state : State) (text : List Char) : Bool :=
  match fuel with
  | 0 => false
  | fuel + 1 =>
    match state.flags.next text with
    | [] => state.outer.isEmpty
    | c :: rest =>
      match state.part c rest with
      | some (state, rest) => isComplete fuel state rest
      | none => false

end State

def isPattern (text : List Char) : Bool :=
  State.start.isComplete (text.length + 1) text

/-- Whether a text is a number without a sign, in digits or in words. -/
def isNumber (text : List Char) : Bool :=
  let (whole, rest) := Json.digits text
  let (fraction, rest) := Json.readFraction rest
  let (exponent, rest) := Json.readExponent rest
  (String.ofList text).toLower ∈ ["inf", "infinity", "nan"] ||
    rest.isEmpty && !(whole ++ fraction.getD []).isEmpty && exponent.all fun digits =>
      !digits.2.isEmpty

/-- Whether a text can be asked for as a value: a pattern, or a number after a plus sign. -/
def isValue : List Char → Bool
  | '+' :: rest => isNumber rest
  | text => isPattern text

end TunnelChain.Pattern
