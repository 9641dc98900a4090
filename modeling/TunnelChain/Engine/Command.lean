import TunnelChain.Log.Line

/-!
Running the programs of a system. A runner tells what each command comes to and how the system
changes by it.
-/
namespace TunnelChain

structure Command where
  program : String
  arguments : List String
  input : Option String
deriving DecidableEq, Repr, Inhabited

/-- How a program ended: with a code, or by a signal, which may have left a dump of the program. -/
inductive Ending where
  | exit (code : Nat)
  | signal (number : Nat)
  | dumped (number : Nat)
deriving DecidableEq, Repr, Inhabited

namespace Ending

def signalName (number : Nat) : Option String :=
  ["SIGHUP", "SIGINT", "SIGQUIT", "SIGILL", "SIGTRAP", "SIGABRT", "SIGBUS", "SIGFPE", "SIGKILL",
    "SIGUSR1", "SIGSEGV", "SIGUSR2", "SIGPIPE", "SIGALRM", "SIGTERM", "SIGSTKFLT", "SIGCHLD",
    "SIGCONT", "SIGSTOP", "SIGTSTP", "SIGTTIN", "SIGTTOU", "SIGURG", "SIGXCPU", "SIGXFSZ",
    "SIGVTALRM", "SIGPROF", "SIGWINCH", "SIGIO", "SIGPWR", "SIGSYS"][number - 1]?

def signalText (number : Nat) : String :=
  "signal: " ++ toString number ++
    match signalName number with
    | some name => " (" ++ name ++ ")"
    | none => ""

def text : Ending → String
  | .exit code => "exit status: " ++ toString code
  | .signal number => signalText number
  | .dumped number => signalText number ++ " (core dumped)"

end Ending

/-- A program that ran to an end, with its output; or one that could not be started, or not be
given its input, or whose end could not be learned. -/
inductive Reply where
  | ran (ending : Ending) (output : Bytes)
  | unspawned (reason : String)
  | unwritten (reason : String)
  | unawaited (reason : String)
deriving DecidableEq, Repr, Inhabited

abbrev Runner (ρ : Type) := Command → ρ → Reply × ρ

namespace Command

def line (command : Command) : String :=
  command.program ++ " " ++ " ".intercalate command.arguments

/-- Whether an argument cannot be handed to a program. -/
def hasNul (command : Command) : Bool :=
  command.arguments.any fun argument => argument.toList.any (·.toNat = 0)

/-- The output of a command that ended well, or what went wrong. -/
def result (command : Command) : Reply → Except String String
  | .ran (.exit 0) output => .ok (Utf8.decodeLossy output)
  | .ran ending _ => .error (command.program ++ " exited unsuccessfully: " ++ ending.text)
  | .unspawned reason => .error (command.program ++ " spawn failed: " ++ reason)
  | .unwritten reason => .error (command.program ++ " stdin write failed: " ++ reason)
  | .unawaited reason =>
    -- A command with nothing to read is started and waited for in one go.
    let failure := if command.input.isSome then " wait failed: " else " spawn failed: "
    .error (command.program ++ failure ++ reason)

end Command

end TunnelChain
