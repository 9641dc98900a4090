namespace TunnelChain

/-- Why the system does not open a path or start a program. -/
inductive SystemError where
  | missing
  | denied
  | alreadyThere
  | notADirectory
  | isADirectory
  | nameTooLong
  | nulInName
deriving DecidableEq, Repr, Inhabited

namespace SystemError

/-- The number of an error that the system itself reports; a null character in a name is found
before the system is asked. -/
def code? : SystemError → Option Nat
  | .missing => some 2
  | .denied => some 13
  | .alreadyThere => some 17
  | .notADirectory => some 20
  | .isADirectory => some 21
  | .nameTooLong => some 36
  | .nulInName => none

def words : SystemError → String
  | .missing => "No such file or directory"
  | .denied => "Permission denied"
  | .alreadyThere => "File exists"
  | .notADirectory => "Not a directory"
  | .isADirectory => "Is a directory"
  | .nameTooLong => "File name too long"
  | .nulInName => "file name contained an unexpected NUL byte"

def message (error : SystemError) : String :=
  match error.code? with
  | some code => error.words ++ " (os error " ++ toString code ++ ")"
  | none => error.words

end SystemError

end TunnelChain
