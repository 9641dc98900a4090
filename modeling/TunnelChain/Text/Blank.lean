import TunnelChain.Text.Utf8

namespace TunnelChain

/-- The white-space characters of Unicode. -/
def isBlank (c : Char) : Bool :=
  let n := c.toNat
  (9 ≤ n && n ≤ 13) || n == 0x20 || n == 0x85 || n == 0xA0 || n == 0x1680 ||
    (0x2000 ≤ n && n ≤ 0x200A) || n == 0x2028 || n == 0x2029 || n == 0x202F || n == 0x205F ||
    n == 0x3000

/-- The white-space bytes of ASCII: space, tab, line feed, form feed and carriage return. -/
def isBlankByte (byte : UInt8) : Bool :=
  byte == 0x20 || byte == 0x09 || byte == 0x0A || byte == 0x0C || byte == 0x0D

/-- Drops the elements that satisfy `p` at both ends. -/
def trimBy {α : Type} (p : α → Bool) (xs : List α) : List α :=
  ((xs.dropWhile p).reverse.dropWhile p).reverse

def trimBytes (bytes : Bytes) : Bytes :=
  trimBy isBlankByte bytes

def trimText (text : String) : String :=
  String.ofList (trimBy isBlank text.toList)

def trimStart (text : String) : String :=
  String.ofList (text.toList.dropWhile isBlank)

/-- The maximal runs of characters that are not blank. -/
def words (text : String) : List String :=
  let (done, last) := text.toList.foldr step ([], [])
  if last.isEmpty then done else String.ofList last :: done
where
  step (c : Char) : List String × List Char → List String × List Char
    | (done, current) =>
      if isBlank c then (if current.isEmpty then done else String.ofList current :: done, [])
      else (done, c :: current)

/-- Drops a carriage return at the end. -/
def withoutReturn (line : List Char) : List Char :=
  if line.getLast? = some '\r' then line.dropLast else line

/-- The lines of a text without their ends, each a line feed or a carriage return and a line feed;
text after the last line feed is a line if it is not empty. -/
def lines (text : String) : List String :=
  let (first, rest) := text.toList.foldr step ([], [])
  ended first rest
where
  step (c : Char) : List Char × List (List Char) → List Char × List (List Char)
    | (current, done) => if c = '\n' then ([], current :: done) else (c :: current, done)
  ended (line : List Char) : List (List Char) → List String
    | [] => if line.isEmpty then [] else [String.ofList line]
    | next :: rest => String.ofList (withoutReturn line) :: ended next rest

end TunnelChain
