import TunnelChain.Log.Buffer
import TunnelChain.Log.Filter

namespace TunnelChain

/-- Where log lines go: to standard output, or to standard error and a buffer. -/
inductive Sink where
  | output
  | errorAndBuffer
deriving DecidableEq, Repr

/-- What log lines have been written to: the two standard streams and the buffer. -/
structure LogOutput where
  stdout : Bytes
  stderr : Bytes
  buffer : LogBuffer
deriving DecidableEq, Repr

/-- The logging of a process: set up once, then fixed. -/
structure Logger where
  setup : Option (LogFilter × Sink)
  output : LogOutput
deriving DecidableEq, Repr

namespace Logger

def fresh (capacity : Nat) : Logger :=
  ⟨none, ⟨[], [], LogBuffer.empty capacity⟩⟩

def alreadySet : String :=
  "a global default trace dispatcher has already been set"

/-- Sets logging up, unless that was done before. -/
def trySetup (logger : Logger) (filter : LogFilter) (sink : Sink) : Except String Unit × Logger :=
  match logger.setup with
  | none => (.ok (), { logger with setup := some (filter, sink) })
  | some _ => (.error alreadySet, logger)

/-- Sets logging up; a failure is reported on standard error. -/
def setUp (logger : Logger) (filter : LogFilter) (sink : Sink) : Logger :=
  match logger.trySetup filter sink with
  | (.ok _, logger) => logger
  | (.error reason, logger) =>
    { logger with
      output.stderr :=
        logger.output.stderr ++ Utf8.encode ("Failed to initialize logging: " ++ reason ++ "\n") }

/-- Writes a line of a target if the filter lets it through. -/
def write (logger : Logger) (target stamp : String) (line : LogLine) : Logger :=
  match logger.setup with
  | none => logger
  | some (filter, sink) =>
    if filter.allows target line.level then
      let bytes := line.written stamp
      match sink with
      | .output => { logger with output.stdout := logger.output.stdout ++ bytes }
      | .errorAndBuffer =>
        { logger with
          output.stderr := logger.output.stderr ++ bytes
          output.buffer := logger.output.buffer.append bytes }
    else logger

end Logger

end TunnelChain
