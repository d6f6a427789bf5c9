/-!
# Quoted text for diagnostics

Diagnostic output quotes a string in double quotes and escapes the quote, the
backslash, the three common whitespace controls and NUL with a backslash;
other control characters become `\u{hex}` and everything else, the apostrophe
and non-ASCII letters included, is kept as it is.
-/

namespace ReportExport.Text

/-- Lowercase hexadecimal text of a natural number. -/
def hexText (n : Nat) : String := String.ofList (Nat.toDigits 16 n)

/-- Whether a character is a control character (C0, DEL or C1). -/
def isControl (c : Char) : Bool :=
  c.toNat < 0x20 || (0x7f ≤ c.toNat && c.toNat < 0xa0)

/-- The escaped form of one character in diagnostic quotes. -/
def debugEscape (c : Char) : String :=
  if c = '"' then "\\\""
  else if c = '\\' then "\\\\"
  else if c = '\n' then "\\n"
  else if c = '\r' then "\\r"
  else if c = '\t' then "\\t"
  else if c.toNat = 0 then "\\0"
  else if isControl c then "\\u" ++ "\x7b" ++ hexText c.toNat ++ "\x7d"
  else String.singleton c

/-- A string in diagnostic quotes. -/
def debugQuote (s : String) : String :=
  "\"" ++ String.join (s.toList.map debugEscape) ++ "\""

end ReportExport.Text
