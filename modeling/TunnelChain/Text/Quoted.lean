import TunnelChain.Text.Printable

namespace TunnelChain.Quoted

def hexDigits (n : Nat) : String :=
  String.ofList (Nat.toDigits 16 n)

/-- At least two hexadecimal digits. -/
def hexPair (n : Nat) : String :=
  (if n < 16 then "0" else "") ++ hexDigits n

def escapeChar (c : Char) : String :=
  if c = '"' then "\\\""
  else if c = '\\' then "\\\\"
  else if c = '\n' then "\\n"
  else if c = '\r' then "\\r"
  else if c = '\t' then "\\t"
  else if c.toNat = 0 then "\\0"
  else if isPrintable c then c.toString
  else "\\u\x7b" ++ hexDigits c.toNat ++ "\x7d"

/-- A text between double quotes, with every character that does not show as itself escaped. -/
def quote (text : String) : String :=
  "\"" ++ String.join (text.toList.map escapeChar) ++ "\""

/-- A field list between braces, as records are shown. -/
def record (name : String) (fields : List (String × String)) : String :=
  name ++ " \x7b " ++
    ", ".intercalate (fields.map fun field => field.1 ++ ": " ++ field.2) ++ " \x7d"

def list (items : List String) : String :=
  "[" ++ ", ".intercalate items ++ "]"

end TunnelChain.Quoted
