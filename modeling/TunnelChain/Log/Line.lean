import TunnelChain.Text.Blank
import TunnelChain.Text.Quoted

namespace TunnelChain

inductive Level where
  | error
  | warn
  | info
  | debug
  | trace
deriving DecidableEq, Repr, Inhabited

namespace Level

/-- How minor a line is: an error has rank 0. -/
def rank : Level → Nat
  | .error => 0
  | .warn => 1
  | .info => 2
  | .debug => 3
  | .trace => 4

def name : Level → String
  | .error => "Error"
  | .warn => "Warn"
  | .info => "Info"
  | .debug => "Debug"
  | .trace => "Trace"

def label : Level → String
  | .error => "ERROR"
  | .warn => "WARN"
  | .info => "INFO"
  | .debug => "DEBUG"
  | .trace => "TRACE"

def ofVerbose (verbose : Bool) : Level :=
  if verbose then .debug else .info

end Level

structure LogLine where
  level : Level
  text : String
deriving DecidableEq, Repr, Inhabited

namespace LogLine

/-- Control characters that a terminal would act on are shown by their codes. -/
def printChar (c : Char) : String :=
  let n := c.toNat
  if n = 0x1B || n = 0x07 || n = 0x08 || n = 0x0C || n = 0x7F then "\\x" ++ Quoted.hexPair n
  else if 0x80 ≤ n && n ≤ 0x9F then "\\u\x7b" ++ Quoted.hexDigits n ++ "\x7d"
  else c.toString

/-- The line as it is read: its level and its text. -/
def shown (line : LogLine) : String :=
  line.level.label ++ " " ++ String.join (line.text.toList.map printChar)

/-- What a reader of the log sees, who takes each line of it alone and passes over the blanks before
it. -/
def seen (line : LogLine) : List String :=
  (lines (line.shown ++ "\n")).map trimStart

/-- The line as it is written: a time stamp, the level right-aligned in five columns, the text and a
line feed. -/
def written (stamp : String) (line : LogLine) : Bytes :=
  let indent := if line.level.label.length < 5 then " " else ""
  Utf8.encode (stamp ++ " " ++ indent ++ line.shown ++ "\n")

end LogLine

end TunnelChain
