import TunnelChain.Json.Draft
import TunnelChain.Text.Quoted
import TunnelChain.Decimal.Binary

/-!
Typed reading of JSON. A record names its fields once, in the order of declaration; it can be read
from an object, whose fields are visited in their own order, or from an array of the fields. The
first field with a bad value decides the fault; fields left out are looked for afterwards.
-/
namespace TunnelChain.Json

/-- Where a value comes from: a text read as it goes, a complete value, or the remainder of a tagged
message. -/
inductive Source where
  | text
  | value
  | remainder
deriving DecidableEq, Repr

inductive Fault where
  | malformed
  | wrongKind (found expected : String)
  | outOfRange (found : Int) (expected : String)
  | missing (field : String)
  | duplicate (field : String)
  | unknownVariant (found : String) (known : List String)
  | tooShort (length : Nat) (record : String) (count : Nat)
  | tooLong (length : Nat)
  | tooLongFor (length count : Nat)
deriving DecidableEq, Repr

namespace Fault

def elements (count : Nat) : String :=
  if count = 1 then "1 element" else toString count ++ " elements"

def quotedNames (names : List String) : String :=
  ", ".intercalate (names.map fun name => "`" ++ name ++ "`")

def message : Fault → String
  | .malformed => "<json>"
  | .wrongKind found expected => "invalid type: " ++ found ++ ", expected " ++ expected
  | .outOfRange found expected =>
    "invalid value: integer `" ++ toString found ++ "`, expected " ++ expected
  | .missing field => "missing field `" ++ field ++ "`"
  | .duplicate field => "duplicate field `" ++ field ++ "`"
  | .unknownVariant found known =>
    "unknown variant `" ++ found ++ "`, expected " ++
      (match known with
        | [only] => "`" ++ only ++ "`"
        | [first, second] => "`" ++ first ++ "` or `" ++ second ++ "`"
        | names => "one of " ++ quotedNames names)
  | .tooShort length record count =>
    "invalid length " ++ toString length ++ ", expected struct " ++ record ++ " with " ++
      elements count
  | .tooLong length => "invalid length " ++ toString length ++ ", expected fewer elements in array"
  | .tooLongFor length count =>
    "invalid length " ++ toString length ++ ", expected " ++ elements count ++ " in sequence"

end Fault

/-- How a value is described where another kind was expected. -/
def Draft.kind : Draft → String
  | .null => "null"
  | .bool value => "boolean `" ++ toString value ++ "`"
  | .num (.int value) => "integer `" ++ toString value ++ "`"
  | .num (.float value) =>
    match Decimal.Binary.ofBits? value.toBits with
    | some binary => "floating point `" ++ binary.text ++ "`"
    | none => "floating point"
  | .str value => "string " ++ Quoted.quote value
  | .arr _ => "sequence"
  | .obj _ => "map"
  | .void => ""
  | .cut => ""

abbrev Reader (α : Type) := Source → Draft → Except Fault α

namespace Reader

variable {α : Type}

def refuse (expected : String) (draft : Draft) : Except Fault α :=
  match draft with
  | .void => .error .malformed
  | .cut => .error .malformed
  | draft => .error (.wrongKind draft.kind expected)

def textAs (expected : String) : Reader String := fun _ draft =>
  match draft with
  | .str value => .ok value
  | draft => refuse expected draft

def text : Reader String :=
  textAs "a string"

def flag : Reader Bool := fun _ draft =>
  match draft with
  | .bool value => .ok value
  | draft => refuse "a boolean" draft

def natural (expected : String) (bound : Nat) : Reader Nat := fun _ draft =>
  match draft with
  | .num (.int value) =>
    if 0 ≤ value ∧ value < bound then .ok value.toNat else .error (.outOfRange value expected)
  | draft => refuse expected draft

def natural16 : Reader UInt16 := fun source draft =>
  (natural "u16" UInt16.size source draft).map UInt16.ofNat

def natural32 : Reader UInt32 := fun source draft =>
  (natural "u32" UInt32.size source draft).map UInt32.ofNat

def natural64 : Reader UInt64 := fun source draft =>
  (natural "u64" UInt64.size source draft).map UInt64.ofNat

def real : Reader Float := fun _ draft =>
  match draft with
  | .num (.int value) => .ok (Float.ofInt value)
  | .num (.float value) => .ok value
  | draft => refuse "f64" draft

def option (reader : Reader α) : Reader (Option α) := fun source draft =>
  match draft with
  | .null => .ok none
  | draft => (reader source draft).map some

def list (reader : Reader α) : Reader (List α) := fun source draft =>
  match draft with
  | .arr items => items.mapM (reader source)
  | draft => refuse "a sequence" draft

/-- One of several words, alone or as the only field of an object that holds null. -/
def choice (options : List (String × α)) : Reader α := fun _ draft =>
  match draft with
  | .str name => named name
  | .obj ((some name, held) :: rest) => do
    let value ← named name
    match held with
    | .null => if rest.isEmpty then .ok value else .error .malformed
    | held => refuse "unit" held
  | _ => .error .malformed
where
  named (name : String) : Except Fault α :=
    match options.lookup name with
    | some value => .ok value
    | none => .error (.unknownVariant name (options.map (·.1)))

end Reader

/-- A field as the visitor of a record sees it. -/
structure Field where
  name : String
  required : Bool
  check : Source → Draft → Except Fault Unit

/-- The fields of a record, and how to put it together from the values that were given. -/
structure Record (α : Type) where
  fields : List Field
  build : Source → (String → Option Draft) → Except Fault α

namespace Record

variable {α β : Type}

instance : Applicative Record where
  pure value := ⟨[], fun _ _ => .ok value⟩
  seq builder rest :=
    ⟨builder.fields ++ (rest ()).fields, fun source given => do
      let build ← builder.build source given
      let value ← (rest ()).build source given
      pure (build value)⟩

def required (name : String) (reader : Reader α) : Record α :=
  ⟨[⟨name, true, fun source draft => (reader source draft).map fun _ => ()⟩], fun source given =>
    match given name with
    | some draft => reader source draft
    | none => .error (.missing name)⟩

def withDefault (name : String) (default : α) (reader : Reader α) : Record α :=
  ⟨[⟨name, false, fun source draft => (reader source draft).map fun _ => ()⟩], fun source given =>
    match given name with
    | some draft => reader source draft
    | none => .ok default⟩

def optional (name : String) (reader : Reader α) : Record (Option α) :=
  withDefault name none (Reader.option reader)

def visit (known : List Field) (source : Source) (seen : List String) :
    List (Option String × Draft) → Except Fault Unit
  | [] => .ok ()
  | (none, _) :: _ => .error .malformed
  | (some name, draft) :: rest =>
    match known.find? (·.name = name) with
    | none => if draft.isWhole then visit known source seen rest else .error .malformed
    | some field => do
      if name ∈ seen then throw (.duplicate name)
      field.check source draft
      visit known source (name :: seen) rest

def surplus (source : Source) (length count : Nat) : Fault :=
  match source with
  | .text => .malformed
  | .value => .tooLong length
  | .remainder => .tooLongFor length count

/-- Pairs the items of an array with the fields in order of declaration; fields with a default may
be left out at the end. -/
def assign (record : String) (source : Source) (count : Nat) :
    Nat → List Field → List Draft → Except Fault (List (String × Draft))
  | _, [], [] => .ok []
  | position, [], items => .error (surplus source (position + items.length) count)
  | position, field :: fields, [] =>
    if field.required then .error (.tooShort position record count)
    else assign record source count (position + 1) fields []
  | position, field :: fields, item :: items => do
    field.check source item
    let rest ← assign record source count (position + 1) fields items
    pure ((field.name, item) :: rest)

def read (name : String) (record : Record α) : Reader α := fun source draft =>
  match draft with
  | .obj fields => do
    visit record.fields source [] fields
    record.build source fun name => fields.lookup (some name)
  | .arr items => do
    let fields ← assign name source record.fields.length 0 record.fields items
    record.build source (fields.lookup ·)
  | draft => Reader.refuse ("struct " ++ name) draft

end Record

def Reader.ofText {α : Type} (reader : Reader α) (text : String) : Except Fault α := do
  let document := Draft.Document.ofText text
  let value ← reader .text document.root
  if document.surplus then throw .malformed
  pure value

def Reader.ofJson {α : Type} (reader : Reader α) (value : Json) : Except Fault α :=
  reader .value value.toDraft

end TunnelChain.Json
