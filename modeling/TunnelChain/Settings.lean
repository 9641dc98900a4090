import TunnelChain.Control.Error
import TunnelChain.Endpoint.Retry
import TunnelChain.Log.Buffer

/-!
The daemon's settings, read from a JSON text in which every field may be left out.
-/
namespace TunnelChain

inductive EngineKind where
  | auto
  | linux
  | memory
deriving DecidableEq, Repr, Inhabited

namespace EngineKind

def name : EngineKind → String
  | .auto => "auto"
  | .linux => "linux"
  | .memory => "memory"

def label : EngineKind → String
  | .auto => "Auto"
  | .linux => "Linux"
  | .memory => "Memory"

/-- The kind that is meant on a Linux system. -/
def chosen : EngineKind → EngineKind
  | .auto => .linux
  | kind => kind

def reader : Json.Reader EngineKind :=
  Json.Reader.choice ([auto, linux, memory].map fun kind => (kind.name, kind))

end EngineKind

namespace RetryPolicy

def reader : Json.Reader RetryPolicy :=
  Json.Record.read "ResolverPolicy" <|
    RetryPolicy.mk <$> .withDefault "initial_delay_ms" standard.initialDelay .natural64
      <*> .withDefault "multiplier" standard.multiplier .real
      <*> .withDefault "max_delay_ms" standard.maxDelay .natural64
      <*> .withDefault "max_retries" standard.maxRetries .natural32

end RetryPolicy

/-- Where the daemon listens unless told otherwise. -/
def standardSocket : String := "/var/run/hoplink/daemon.socket"

structure Settings where
  socketPath : String
  stem : String
  mtu : UInt16
  logCapacity : Nat
  monitorInterval : UInt64
  retry : RetryPolicy
  engine : EngineKind
deriving Repr

namespace Settings

def standard : Settings :=
  ⟨standardSocket, "hoplink", 1420, LogBuffer.defaultCapacity, 2000, .standard, .auto⟩

def reader : Json.Reader Settings :=
  Json.Record.read "DaemonConfig" <|
    Settings.mk <$> .withDefault "socket_path" standard.socketPath (.textAs "path string")
      <*> .withDefault "interface_prefix" standard.stem .text
      <*> .withDefault "mtu" standard.mtu .natural16
      <*> .withDefault "log_buffer_bytes" standard.logCapacity (.natural "usize" UInt64.size)
      <*> .withDefault "monitor_interval_ms" standard.monitorInterval .natural64
      <*> .withDefault "resolver" standard.retry RetryPolicy.reader
      <*> .withDefault "backend" standard.engine EngineKind.reader

def isStemChar (c : Char) : Bool :=
  c.isAlphanum || c = '-' || c = '_'

/-- The first fault of a stem that interface names cannot be made of. -/
def stemFault? (stem : String) : Option String :=
  if stem.isEmpty || !stem.toList.all isStemChar then
    some ("interface_prefix `" ++ stem ++ "` must be non-empty ASCII letters, digits, `-` or `_`")
  else if Naming.maxBytes < Utf8.size stem + 5 then
    some ("interface_prefix `" ++ stem ++ "` is too long for relay hop names")
  else none

/-- The first fault of settings that can be read but not used. -/
def fault? (settings : Settings) : Option String :=
  match stemFault? settings.stem with
  | some reason => some reason
  | none =>
    if settings.mtu < 1280 then some ("mtu " ++ toString settings.mtu.toNat ++ " is below 1280")
    else if settings.monitorInterval = 0 then some "monitor_interval_ms must be positive"
    else if settings.retry.multiplier.isNaN || settings.retry.multiplier < 1 then
      some "resolver.multiplier must be at least 1"
    else none

def validate (settings : Settings) : Except OperationError Settings :=
  match settings.fault? with
  | some reason => .error (.settings reason)
  | none => .ok settings

/-- Reads settings from the content of the file at `path`. -/
def ofFile (path : String) (content : Bytes) : Except OperationError Settings :=
  match Utf8.decode content with
  | none => .error (.system "stream did not contain valid UTF-8")
  | some text =>
    match reader.ofText text with
    | .error fault => .error (.settings (path ++ ": " ++ fault.message))
    | .ok settings => settings.validate

/-- Reads settings from the file at `path`, given its content or the reason why it cannot be
read. -/
def load (path : String) : Except String Bytes → Except OperationError Settings
  | .error reason => .error (.system reason)
  | .ok content => ofFile path content

end Settings

end TunnelChain
