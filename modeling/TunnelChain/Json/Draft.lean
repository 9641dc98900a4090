import TunnelChain.Json.Token

/-!
A JSON text as far as it can be read. Fields stand in the order of the text, repeated ones included,
and a cut marks the place where the text stops being JSON, so that whoever visits a draft in order
meets a value of the wrong kind before a fault that comes later in the text. A field whose name
denotes no text has no name here, and neither has a cut where a name should be.
-/
namespace TunnelChain.Json

inductive Draft where
  | null
  | bool (value : Bool)
  | num (value : Number)
  | str (value : String)
  | arr (items : List Draft)
  | obj (fields : List (Option String × Draft))
  /-- A complete token that denotes no value. -/
  | void
  /-- Nothing from here on is JSON. -/
  | cut
deriving Repr, Inhabited

namespace Draft

/-- An array or object that is still open, its parts the latest first; `key` is the name of the
field being read. -/
inductive Frame where
  | array (items : List Draft)
  | object (fields : List (Option String × Draft)) (key : Option String)
deriving Repr

/-- What may come next: a value, a value or the end of an array just opened, a name, a name or the
end of an object just opened, a colon, or what follows a value. -/
inductive Expect where
  | value
  | firstItem
  | name
  | firstName
  | colon
  | separator
deriving DecidableEq, Repr

/-- A text under way with its open frames, the innermost first; a complete value; or a faulty
text. -/
inductive Builder where
  | reading (frames : List Frame) (expect : Expect)
  | done (root : Draft)
  | surplus (root : Draft)
  | broken (root : Draft)
deriving Repr

namespace Builder

def start : Builder :=
  .reading [] .value

def deliver (value : Draft) : List Frame → Builder
  | [] => .done value
  | .array items :: rest => .reading (.array (value :: items) :: rest) .separator
  | .object fields key :: rest =>
    .reading (.object ((key, value) :: fields) none :: rest) .separator

/-- Closes every open frame around a last part. -/
def closeAll (last : Draft) : List Frame → Draft
  | [] => last
  | .array items :: rest => closeAll (.arr (last :: items).reverse) rest
  | .object fields key :: rest => closeAll (.obj ((key, last) :: fields).reverse) rest

def fail (frames : List Frame) : Builder :=
  .broken (closeAll .cut frames)

def scalar? : Token → Option Draft
  | .null => some .null
  | .bool value => some (.bool value)
  | .num (some value) => some (.num value)
  | .str (some value) => some (.str value)
  | .num none => some .void
  | .str none => some .void
  | _ => none

def readValue (frames : List Frame) (token : Token) : Builder :=
  match token with
  | .openArray => .reading (.array [] :: frames) .firstItem
  | .openObject => .reading (.object [] none :: frames) .firstName
  | token =>
    match scalar? token with
    | some value => deliver value frames
    | none => fail frames

def readName (frames : List Frame) (token : Token) : Builder :=
  match token, frames with
  | .str name, .object fields _ :: rest => .reading (.object fields name :: rest) .colon
  | _, frames => fail frames

def readSeparator (frames : List Frame) (token : Token) : Builder :=
  match token, frames with
  | .comma, .array items :: rest => .reading (.array items :: rest) .value
  | .comma, .object fields key :: rest => .reading (.object fields key :: rest) .name
  | .closeArray, .array items :: rest => deliver (.arr items.reverse) rest
  | .closeObject, .object fields _ :: rest => deliver (.obj fields.reverse) rest
  | _, frames => fail frames

def step (builder : Builder) (token : Token) : Builder :=
  match builder with
  | .reading frames expect =>
    match expect, token, frames with
    | .firstItem, .closeArray, .array _ :: rest => deliver (.arr []) rest
    | .firstItem, token, frames => readValue frames token
    | .value, token, frames => readValue frames token
    | .firstName, .closeObject, .object _ _ :: rest => deliver (.obj []) rest
    | .firstName, token, frames => readName frames token
    | .name, token, frames => readName frames token
    | .colon, .colon, frames => .reading frames .value
    | .colon, _, frames => fail frames
    | .separator, token, frames => readSeparator frames token
  | .done root => .surplus root
  | builder => builder

end Builder

/-- A text read as far as possible; `surplus` when something follows the value. -/
structure Document where
  root : Draft
  surplus : Bool
deriving Repr

def Builder.finish : Builder → Document
  | .reading frames _ => ⟨closeAll .cut frames, false⟩
  | .done root => ⟨root, false⟩
  | .surplus root => ⟨root, true⟩
  | .broken root => ⟨root, false⟩

def Document.ofTokens (tokens : List Token) : Document :=
  (tokens.foldl Builder.step Builder.start).finish

def Document.ofText (text : String) : Document :=
  Document.ofTokens (tokens text.toList)

/-- The value of a draft without faults that nests at most `depth` arrays and objects. -/
def toJson? (depth : Nat) : Draft → Option Json
  | .null => some .null
  | .bool value => some (.bool value)
  | .num value => some (.num value)
  | .str value => some (.str value)
  | .void => none
  | .cut => none
  | .arr items =>
    if depth = 0 then none else (items? (depth - 1) items).map .arr
  | .obj fields =>
    if depth = 0 then none
    else (fields? (depth - 1) fields).map fun fields => .obj (sortFields fields)
where
  items? (depth : Nat) : List Draft → Option (List Json)
    | [] => some []
    | item :: rest =>
      match toJson? depth item with
      | none => none
      | some value => (items? depth rest).map (value :: ·)
  fields? (depth : Nat) : List (Option String × Draft) → Option (List (String × Json))
    | [] => some []
    | (none, _) :: _ => none
    | (some name, item) :: rest =>
      match toJson? depth item with
      | none => none
      | some value => (fields? depth rest).map ((name, value) :: ·)

/-- Whether a value can be passed over: its text is JSON throughout. -/
def isWhole : Draft → Bool
  | .cut => false
  | .arr items => wholeItems items
  | .obj fields => wholeFields fields
  | _ => true
where
  wholeItems : List Draft → Bool
    | [] => true
    | item :: rest => item.isWhole && wholeItems rest
  wholeFields : List (Option String × Draft) → Bool
    | [] => true
    | (_, item) :: rest => item.isWhole && wholeFields rest

end Draft

/-- How many arrays and objects may nest in a text. -/
def maxDepth : Nat := 127

def parse? (text : String) : Option Json :=
  let document := Draft.Document.ofText text
  if document.surplus then none else document.root.toJson? maxDepth

/-- A value as the draft of a text that writes it. -/
def toDraft : Json → Draft
  | .null => .null
  | .bool value => .bool value
  | .num value => .num value
  | .str value => .str value
  | .arr items => .arr (drafts items)
  | .obj fields => .obj (fieldDrafts fields)
where
  drafts : List Json → List Draft
    | [] => []
    | item :: rest => item.toDraft :: drafts rest
  fieldDrafts : List (String × Json) → List (Option String × Draft)
    | [] => []
    | (name, item) :: rest => (some name, item.toDraft) :: fieldDrafts rest

end TunnelChain.Json
