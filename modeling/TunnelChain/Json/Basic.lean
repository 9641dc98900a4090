/-!
JSON values. An integer that fits in 64 bits is kept exactly, any other number as a double. The
fields of an object that is read stand in the order of their names, each name once; one that is
written keeps the order it was given.
-/
namespace TunnelChain

inductive Number where
  | int (value : Int)
  | float (value : Float)
deriving BEq, Repr, Inhabited

inductive Json where
  | null
  | bool (value : Bool)
  | num (value : Number)
  | str (value : String)
  | arr (items : List Json)
  | obj (fields : List (String × Json))
deriving Repr, Inhabited

namespace Json

/-- Sets a field, keeping the order of names. -/
def insertField {α : Type} (name : String) (value : α) : List (String × α) → List (String × α)
  | [] => [(name, value)]
  | (other, old) :: rest =>
    if name = other then (name, value) :: rest
    else if name < other then (name, value) :: (other, old) :: rest
    else (other, old) :: insertField name value rest

/-- The fields in the order of their names; the last of several with one name stays. -/
def sortFields {α : Type} (fields : List (String × α)) : List (String × α) :=
  fields.foldl (fun done field => insertField field.1 field.2 done) []

def field? (body : Json) (name : String) : Option Json :=
  match body with
  | .obj fields => fields.lookup name
  | _ => none

def text? : Json → Option String
  | .str value => some value
  | _ => none

def flag? : Json → Option Bool
  | .bool value => some value
  | _ => none

/-- The value of an integer from 0 to 2⁶⁴ - 1. -/
def natural? : Json → Option Nat
  | .num (.int value) => if 0 ≤ value then some value.toNat else none
  | _ => none

def isObject : Json → Bool
  | .obj _ => true
  | _ => false

end Json

end TunnelChain
