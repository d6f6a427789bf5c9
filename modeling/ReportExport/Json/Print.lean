import ReportExport.Json.Basic

/-!
# JSON text

Compact text has no blanks; pretty text puts every item and member on a line
of its own, indented by two spaces per level, with `": "` after a key. Strings
escape only the quote, the backslash and control characters; everything else,
non-ASCII included, is written as it is.
-/

namespace ReportExport

/-- Lowercase hexadecimal digit of a nibble. -/
def hexDigit (n : Nat) : Char :=
  if n < 10 then Char.ofNat (48 + n) else Char.ofNat (87 + n)

/-- The escaped form of one character inside a JSON string. -/
def jsonEscapeChar (c : Char) : List Char :=
  if c = '"' then ['\\', '"']
  else if c = '\\' then ['\\', '\\']
  else if c = '\n' then ['\\', 'n']
  else if c = '\r' then ['\\', 'r']
  else if c = '\t' then ['\\', 't']
  else if c.toNat = 8 then ['\\', 'b']
  else if c.toNat = 12 then ['\\', 'f']
  else if c.toNat < 0x20 then
    ['\\', 'u', '0', '0', hexDigit (c.toNat / 16), hexDigit (c.toNat % 16)]
  else [c]

/-- A string as a quoted JSON string literal. -/
def jsonQuote (s : String) : String :=
  String.ofList ('"' :: (s.toList.flatMap jsonEscapeChar ++ ['"']))

namespace Json

mutual
/-- Compact JSON text. -/
def compact : Json → String
  | .null => "null"
  | .bool true => "true"
  | .bool false => "false"
  | .num n => n.text
  | .str s => jsonQuote s
  | .arr xs => "[" ++ compactItems xs ++ "]"
  | .obj ms => "\x7b" ++ compactMembers ms ++ "\x7d"

/-- Compact text of array items, comma separated. -/
def compactItems : List Json → String
  | [] => ""
  | [x] => compact x
  | x :: xs => compact x ++ "," ++ compactItems xs

/-- Compact text of object members, comma separated. -/
def compactMembers : List (String × Json) → String
  | [] => ""
  | [(k, v)] => jsonQuote k ++ ":" ++ compact v
  | (k, v) :: rest => jsonQuote k ++ ":" ++ compact v ++ "," ++ compactMembers rest
end

/-- Indentation of a nesting level. -/
def indent (level : Nat) : String := String.ofList (List.replicate (2 * level) ' ')

mutual
/-- Pretty JSON text at nesting `level`. -/
def pretty (level : Nat) : Json → String
  | .arr [] => "[]"
  | .obj [] => "\x7b\x7d"
  | .arr xs => "[\n" ++ prettyItems (level + 1) xs ++ "\n" ++ indent level ++ "]"
  | .obj ms => "\x7b\n" ++ prettyMembers (level + 1) ms ++ "\n" ++ indent level ++ "\x7d"
  | j => compact j

/-- Pretty array items, one per line. -/
def prettyItems (level : Nat) : List Json → String
  | [] => ""
  | [x] => indent level ++ pretty level x
  | x :: xs => indent level ++ pretty level x ++ ",\n" ++ prettyItems level xs

/-- Pretty object members, one per line. -/
def prettyMembers (level : Nat) : List (String × Json) → String
  | [] => ""
  | [(k, v)] => indent level ++ jsonQuote k ++ ": " ++ pretty level v
  | (k, v) :: rest =>
    indent level ++ jsonQuote k ++ ": " ++ pretty level v ++ ",\n" ++ prettyMembers level rest
end

end Json

end ReportExport
