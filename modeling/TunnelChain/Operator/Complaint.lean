import TunnelChain.Control.Error

namespace TunnelChain

/-- Why a command failed: what it was about, and the causes behind that, outermost first. -/
structure Complaint where
  summary : String
  causes : List String
deriving DecidableEq, Repr, Inhabited

namespace Complaint

def plain (summary : String) : Complaint :=
  ⟨summary, []⟩

def ofOperation (summary : String) (error : OperationError) : Complaint :=
  ⟨summary, error.message :: error.causes⟩

/-- A text whose further lines are set in. -/
def setIn (indent text : String) : String :=
  String.join (text.toList.map fun c => if c = '\n' then "\n" ++ indent else c.toString)

def numbered (number : Nat) (cause : String) : String :=
  let label := toString number
  String.ofList (List.replicate (5 - label.length) ' ') ++ label ++ ": " ++ setIn "       " cause

/-- The causes on lines of their own, numbered if there are several. -/
def causeLines : List String → List String
  | [only] => ["    " ++ setIn "    " only]
  | causes => causes.mapIdx numbered

def text (complaint : Complaint) : String :=
  "Error: " ++ complaint.summary ++
    (if complaint.causes.isEmpty then
      "" else "\n\nCaused by:\n" ++ "\n".intercalate (causeLines complaint.causes)) ++
    "\n"

/-- The exit code of a command and what standard error shows. -/
def exit : Except Complaint Unit → Nat × String
  | .ok _ => (0, "")
  | .error complaint => (1, complaint.text)

end Complaint

end TunnelChain
