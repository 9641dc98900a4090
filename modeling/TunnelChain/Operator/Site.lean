import TunnelChain.Operator.Daemon
import TunnelChain.Operator.Errand
import TunnelChain.SystemError

/-!
What becomes of a path where files and sockets stand. A path is walked name by name from the root or
from the place where the program was started; every name on the way must be there, and all but the
last must be directories.
-/
namespace TunnelChain

inductive Standing where
  | file (content : Bytes)
  | directory
deriving DecidableEq, Repr, Inhabited

/-- What stands at each place; a place is the names on the way to it, the last one first. -/
abbrev Site := List String → Option Standing

namespace Site

def nul : Char := Char.ofNat 0

/-- The longest name and the longest path, in bytes. -/
def maxName : Nat := 255
def maxPath : Nat := 4095

/-- The longest path of a socket, in bytes. -/
def maxSocketPath : Nat := 107

/-- The name of the place where a walk begins. -/
def anchor (path : String) : String :=
  if path.toList.head? = some '/' then "/" else "."

def names (path : String) : List String :=
  (path.splitOn "/").filter fun name => name ≠ "" && name ≠ "."

def walkFrom (site : Site) (place : List String) (standing : Standing) :
    List String → Except SystemError Standing
  | [] => .ok standing
  | name :: rest =>
    match standing with
    | .file _ => .error .notADirectory
    | .directory =>
      if maxName < Utf8.size name then .error .nameTooLong
      else
        match site (name :: place) with
        | none => .error .missing
        | some standing => walkFrom site (name :: place) standing rest

/-- Walks a path. A slash at its end asks for a directory. -/
def walk (site : Site) (path : String) : Except SystemError Standing :=
  if path.isEmpty then .error .missing
  else if nul ∈ path.toList then .error .nulInName
  else if maxPath < Utf8.size path then .error .nameTooLong
  else
    match walkFrom site [anchor path] .directory (names path) with
    | .ok (.file content) =>
      if path.toList.getLast? = some '/' then .error .notADirectory else .ok (.file content)
    | outcome => outcome

def read (site : Site) (path : String) : Except String Bytes :=
  match walk site path with
  | .ok (.file content) => .ok content
  | .ok .directory => .error SystemError.isADirectory.message
  | .error error => .error error.message

def sunLen : String := "path must be shorter than SUN_LEN"

/-- Why nobody is reached at a path where no daemon listens. -/
def connectFailure (site : Site) (path : String) : ConnectFailure :=
  if maxSocketPath < Utf8.size path then .other sunLen
  else
    match walk site path with
    | .ok _ => .refused
    | .error .missing => .notFound
    | .error error => .other error.message

/-- Why a directory cannot be made together with those on the way to it, if it cannot; one that is
there already need not be made. -/
def makeFailure? (site : Site) (path : String) : Option SystemError :=
  match walk site path with
  | .ok .directory => none
  | .ok (.file _) => some .alreadyThere
  | .error .missing => if (names path).any (maxName < Utf8.size ·) then some .nameTooLong else none
  | .error error => some error

/-- The directory of a path; the root has none, and a name alone stands in no directory that needs
to be made. -/
def directoryOf (path : String) : Option String :=
  match (names path).dropLast with
  | [] => if anchor path = "/" && !(names path).isEmpty then some "/" else none
  | names => some ((if anchor path = "/" then "/" else "") ++ "/".intercalate names)

/-- Why no socket can be bound at a path where nothing stands, if none can. A path that begins with
a null character names a socket that is no file. -/
def refusal? (path : String) : Option String :=
  if path.toList.head? = some nul then none
  else if nul ∈ path.toList then some "paths must not contain interior null bytes"
  else if maxSocketPath < Utf8.size path then some sunLen
  else if path.toList.getLast? = some '/' then some SystemError.missing.message
  else none

/-- Why a daemon cannot serve at a path, if it cannot. It makes the directory, removes a file that
stands there, and binds the socket. -/
def bindFailure? (site : Site) (path : String) : Option BindFailure :=
  match (directoryOf path).bind (makeFailure? site) with
  | some error => some (.system error.message)
  | none =>
    match walk site path with
    | .ok .directory => some (.system SystemError.isADirectory.message)
    | _ => (refusal? path).map .refused

/-- The places that stand on every system, with some files besides, each named as the place where
the program was started knows it. -/
def standard (files : List (String × Bytes)) : Site
  | ["null", "dev", "/"] => some (.file [])
  | [name, "/"] => if name ∈ systemDirectories then some .directory else none
  | [name, "."] => (files.lookup name).map .file
  | _ => none
where
  systemDirectories : List String :=
    ["bin", "dev", "etc", "home", "lib", "opt", "proc", "root", "run", "sys", "tmp", "usr", "var"]

end Site

end TunnelChain
