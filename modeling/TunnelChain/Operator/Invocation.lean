import TunnelChain.Decimal.Natural
import TunnelChain.Settings

/-!
The command line: options for all commands, the command, and its own options. Each option may be
given once; an option's value follows it, or an equals sign after it, or, for a short option, its
letter.
-/
namespace TunnelChain

inductive Task where
  | daemon (settings : Option String)
  | status
  | up (plan : String)
  | down (hops : Nat)
  | logs
  | cleanLogs
  | version
deriving DecidableEq, Repr, Inhabited

structure Invocation where
  socket : Option String
  isVerbose : Bool
  task : Task
deriving DecidableEq, Repr, Inhabited

/-- Where a daemon listens that may not use the standard place. -/
def fallbackSocket : String := "/tmp/hoplink.socket"

/-- Where to look for a daemon, given whether the standard socket is there. -/
def Invocation.socketPath (invocation : Invocation) (isStandardThere : Bool) : String :=
  invocation.socket.getD (if isStandardThere then standardSocket else fallbackSocket)

/-- Why a command line names no task: it asks for help or for the program's release, or it cannot be
understood. -/
inductive Excuse where
  | help
  | release
  | misuse
deriving DecidableEq, Repr, Inhabited

/-- Only a command line that cannot be understood is a failure. -/
def Excuse.exitCode : Excuse → Nat
  | .misuse => 2
  | _ => 0

def releaseText : String := "hoplink 0.1.0\n"

namespace Invocation

inductive Switch where
  | socket
  | verbose
  | settings
  | plan
  | hops
  | help
  | release
deriving DecidableEq, Repr, Inhabited

/-- How an option is written: its long name, its letter if it has one, and what value it takes. -/
structure Spelling where
  switch : Switch
  long : String
  letter : Option Char
  takesValue : Bool
deriving DecidableEq, Repr, Inhabited

abbrev Spellings := List Spelling

def commonSpellings : Spellings :=
  [⟨.socket, "socket", none, true⟩, ⟨.verbose, "verbose", some 'v', false⟩,
    ⟨.help, "help", some 'h', false⟩, ⟨.release, "version", some 'V', false⟩]

def helpSpelling : Spelling :=
  ⟨.help, "help", some 'h', false⟩

/-- The options given so far, with their values. -/
abbrev Given := List (Switch × String)

def maxHops : Nat := UInt64.size - 1

def readCount? (text : String) : Option Nat :=
  (Decimal.natural? text).filter (· ≤ maxHops)

def isGoodValue (switch : Switch) (value : String) : Bool :=
  match switch with
  | .hops => (readCount? value).isSome
  | _ => !value.isEmpty

def give (given : Given) (switch : Switch) (value : String) : Except Excuse Given :=
  match switch with
  | .help => .error .help
  | .release => .error .release
  | switch =>
    if given.any (·.1 = switch) || (switch ≠ .verbose && !isGoodValue switch value) then
      .error .misuse
    else .ok (given ++ [(switch, value)])

/-- What an argument is by its look. A lone hyphen is a word. -/
inductive Look where
  | terminator
  | long (name : String) (value : Option String)
  | letters (letters : List Char)
  | word (text : String)
deriving DecidableEq, Repr

def look (argument : String) : Look :=
  match argument.toList with
  | ['-', '-'] => .terminator
  | '-' :: '-' :: rest =>
    let name := String.ofList (rest.takeWhile (· ≠ '='))
    match rest.dropWhile (· ≠ '=') with
    | [] => .long name none
    | _ :: value => .long name (some (String.ofList value))
  | '-' :: first :: rest => .letters (first :: rest)
  | _ => .word argument

/-- What is left to do after the letters of one argument: nothing, or to find the value of an
option. -/
inductive Owed where
  | nothing
  | value (switch : Switch)
deriving DecidableEq, Repr

def readLetters (spellings : Spellings) (given : Given) : List Char → Except Excuse (Given × Owed)
  | [] => .ok (given, .nothing)
  | letter :: rest =>
    match spellings.find? (·.letter = some letter) with
    | none => .error .misuse
    | some spelling =>
      if spelling.takesValue then
        match rest with
        | [] => .ok (given, .value spelling.switch)
        | '=' :: value => (give given spelling.switch (String.ofList value)).map (·, .nothing)
        | value => (give given spelling.switch (String.ofList value)).map (·, .nothing)
      else
        match give given spelling.switch "" with
        | .error excuse => .error excuse
        | .ok given => readLetters spellings given rest

def readLong (spellings : Spellings) (given : Given) (name : String) (value : Option String) :
    Except Excuse (Given × Owed) :=
  match spellings.find? (·.long = name), value with
  | none, _ => .error .misuse
  | some spelling, none =>
    if spelling.takesValue then .ok (given, .value spelling.switch)
    else (give given spelling.switch "").map (·, .nothing)
  | some spelling, some value =>
    if spelling.takesValue then (give given spelling.switch value).map (·, .nothing)
    else .error .misuse

def readOption (spellings : Spellings) (given : Given) : Look → Except Excuse (Given × Owed)
  | .long name value => readLong spellings given name value
  | .letters letters => readLetters spellings given letters
  | _ => .ok (given, .nothing)

/-- Reads options up to the first word, which is returned with what follows it. -/
def readOptions (spellings : Spellings) (given : Given) :
    List String → Except Excuse (Given × List String)
  | [] => .ok (given, [])
  | argument :: rest =>
    match look argument with
    | .word _ => .ok (given, argument :: rest)
    | .terminator => if rest.isEmpty then .ok (given, []) else .error .misuse
    | option =>
      match readOption spellings given option, rest with
      | .error excuse, _ => .error excuse
      | .ok (given, .nothing), rest => readOptions spellings given rest
      | .ok (_, .value _), [] => .error .misuse
      | .ok (given, .value switch), value :: rest =>
        match look value, give given switch value with
        | .word _, .ok given => readOptions spellings given rest
        | _, _ => .error .misuse

def taskSpellings : List (String × Spellings) :=
  [("daemon", [⟨.settings, "config", some 'c', true⟩, helpSpelling]), ("status", [helpSpelling]),
    ("up", [⟨.plan, "plan", some 'p', true⟩, helpSpelling]),
    ("down", [⟨.hops, "hops", some 'n', true⟩, helpSpelling]),
    ("logs", [helpSpelling]), ("clean-logs", [helpSpelling]), ("version", [helpSpelling])]

def taskOf (name : String) (given : Given) : Except Excuse Task :=
  match name, given.lookup .plan with
  | "daemon", _ => .ok (.daemon (given.lookup .settings))
  | "status", _ => .ok .status
  | "up", some plan => .ok (.up plan)
  | "down", _ => .ok (.down (((given.lookup .hops).bind readCount?).getD 1))
  | "logs", _ => .ok .logs
  | "clean-logs", _ => .ok .cleanLogs
  | "version", _ => .ok .version
  | _, _ => .error .misuse

/-- What comes of asking for help on a command, of which none has commands of its own. -/
def helpOn : List String → Excuse
  | [] => .help
  | [name] => if name = "help" || (taskSpellings.lookup name).isSome then .help else .misuse
  | _ => .misuse

def readTask (name : String) (arguments : List String) : Except Excuse Task :=
  match taskSpellings.lookup name with
  | none => .error (if name = "help" then helpOn arguments else .misuse)
  | some spellings =>
    match readOptions spellings [] arguments with
    | .error excuse => .error excuse
    | .ok (given, []) => taskOf name given
    | .ok (_, _ :: _) => .error .misuse

def ofArguments (arguments : List String) : Except Excuse Invocation :=
  match readOptions commonSpellings [] arguments with
  | .error excuse => .error excuse
  | .ok (_, []) => .error .misuse
  | .ok (given, name :: rest) =>
    (readTask name rest).map fun task =>
      ⟨given.lookup .socket, (given.lookup .verbose).isSome, task⟩

end Invocation

end TunnelChain
