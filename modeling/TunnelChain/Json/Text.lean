import TunnelChain.Decimal.Binary
import TunnelChain.Json.Basic

/-!
The compact text of a value: no space between tokens, quotes, backslashes and control characters
escaped, every other character as it is.
-/
namespace TunnelChain.Json

def hexDigit (n : Nat) : Char :=
  if n < 10 then Char.ofNat (48 + n) else Char.ofNat (87 + n)

def escapeChar (c : Char) : List Char :=
  match c with
  | '"' => ['\\', '"']
  | '\\' => ['\\', '\\']
  | '\n' => ['\\', 'n']
  | '\r' => ['\\', 'r']
  | '\t' => ['\\', 't']
  | '\x08' => ['\\', 'b']
  | '\x0c' => ['\\', 'f']
  | c =>
    if c.toNat < 0x20 then
      ['\\', 'u', '0', '0', hexDigit (c.toNat / 16), hexDigit (c.toNat % 16)] else [c]

def stringText (text : String) : List Char :=
  '"' :: text.toList.flatMap escapeChar ++ ['"']

def numberText : Number → List Char
  | .int value => (toString value).toList
  | .float value =>
    match Decimal.Binary.ofBits? value.toBits with
    | some binary => binary.text.toList
    | none => "null".toList

def chars : Json → List Char
  | .null => "null".toList
  | .bool true => "true".toList
  | .bool false => "false".toList
  | .num value => numberText value
  | .str value => stringText value
  | .arr items => '[' :: itemsText items
  | .obj fields => '\x7b' :: fieldsText fields
where
  itemsText : List Json → List Char
    | [] => [']']
    | [item] => item.chars ++ [']']
    | item :: rest => item.chars ++ ',' :: itemsText rest
  fieldsText : List (String × Json) → List Char
    | [] => ['\x7d']
    | [(name, item)] => stringText name ++ ':' :: item.chars ++ ['\x7d']
    | (name, item) :: rest => stringText name ++ ':' :: item.chars ++ ',' :: fieldsText rest

def text (value : Json) : String :=
  String.ofList value.chars

end TunnelChain.Json
