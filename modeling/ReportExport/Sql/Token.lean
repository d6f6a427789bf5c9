import ReportExport.Sql.Affinity

/-!
# SQL tokens

The words of a statement: keywords, identifiers (bare, or quoted with `"`,
`` ` `` or `[...]`), string and blob literals, numbers, parameters and
punctuation. Every token keeps the byte range it was read from, so that the
text of an expression or a statement can be quoted back as written.

Keywords are recognized in any case. Many of them may also stand for a name
wherever the grammar has no use for the keyword itself (`fallsBackToName`):
a column may be called `desc`, `key` or `end`.
-/

namespace ReportExport.Sql

open Text

/-- The keywords of the language. -/
def keywords : List String :=
  ["ABORT", "ACTION", "ADD", "AFTER", "ALL", "ALTER", "ALWAYS", "ANALYZE", "AND", "AS", "ASC",
   "ATTACH", "AUTOINCREMENT", "BEFORE", "BEGIN", "BETWEEN", "BY", "CASCADE", "CASE", "CAST",
   "CHECK", "COLLATE", "COLUMN", "COMMIT", "CONFLICT", "CONSTRAINT", "CREATE", "CROSS",
   "CURRENT", "CURRENT_DATE", "CURRENT_TIME", "CURRENT_TIMESTAMP", "DATABASE", "DEFAULT",
   "DEFERRABLE", "DEFERRED", "DELETE", "DESC", "DETACH", "DISTINCT", "DO", "DROP", "EACH",
   "ELSE", "END", "ESCAPE", "EXCEPT", "EXCLUDE", "EXCLUSIVE", "EXISTS", "EXPLAIN", "FAIL",
   "FILTER", "FIRST", "FOLLOWING", "FOR", "FOREIGN", "FROM", "FULL", "GENERATED", "GLOB",
   "GROUP", "GROUPS", "HAVING", "IF", "IGNORE", "IMMEDIATE", "IN", "INDEX", "INDEXED",
   "INITIALLY", "INNER", "INSERT", "INSTEAD", "INTERSECT", "INTO", "IS", "ISNULL", "JOIN",
   "KEY", "LAST", "LEFT", "LIKE", "LIMIT", "MATCH", "MATERIALIZED", "NATURAL", "NO", "NOT",
   "NOTHING", "NOTNULL", "NULL", "NULLS", "OF", "OFFSET", "ON", "OR", "ORDER", "OTHERS",
   "OUTER", "OVER", "PARTITION", "PLAN", "PRAGMA", "PRECEDING", "PRIMARY", "QUERY", "RAISE",
   "RANGE", "RECURSIVE", "REFERENCES", "REGEXP", "REINDEX", "RELEASE", "RENAME", "REPLACE",
   "RESTRICT", "RETURNING", "RIGHT", "ROLLBACK", "ROW", "ROWS", "SAVEPOINT", "SELECT", "SET",
   "TABLE", "TEMP", "TEMPORARY", "THEN", "TIES", "TO", "TRANSACTION", "TRIGGER", "UNBOUNDED",
   "UNION", "UNIQUE", "UPDATE", "USING", "VACUUM", "VALUES", "VIEW", "VIRTUAL", "WHEN",
   "WHERE", "WINDOW", "WITH", "WITHOUT"]

/-- The keywords as bytes: a word is looked up as written, without decoding
it. -/
def keywordBytes : List Bytes := keywords.map bytesOf

/-- Keywords that stand for a name where the keyword itself does not fit. -/
def fallbackKeywords : List String :=
  ["ABORT", "ACTION", "AFTER", "ANALYZE", "ASC", "ATTACH", "BEFORE", "BEGIN", "BY", "CASCADE",
   "CAST", "COLUMN", "CONFLICT", "DATABASE", "DEFERRED", "DESC", "DETACH", "DO", "EACH", "END",
   "EXCLUSIVE", "EXPLAIN", "FAIL", "FOR", "IGNORE", "IMMEDIATE", "INITIALLY", "INSTEAD", "LIKE",
   "GLOB", "REGEXP", "MATCH", "NO", "PLAN", "QUERY", "KEY", "OF", "OFFSET", "PRAGMA", "RAISE",
   "RECURSIVE", "RELEASE", "REPLACE", "RESTRICT", "ROW", "ROWS", "ROLLBACK", "SAVEPOINT",
   "TEMP", "TEMPORARY", "TRIGGER", "VACUUM", "VIEW", "VIRTUAL", "WITH", "WITHOUT", "NULLS",
   "FIRST", "LAST", "CURRENT", "FOLLOWING", "PARTITION", "PRECEDING", "RANGE", "UNBOUNDED",
   "EXCLUDE", "GROUPS", "OTHERS", "TIES", "GENERATED", "ALWAYS", "MATERIALIZED", "REINDEX",
   "RENAME", "CURRENT_DATE", "CURRENT_TIME", "CURRENT_TIMESTAMP", "IF"]

/-- The join keywords, which may also be names. -/
def joinKeywords : List String := ["CROSS", "FULL", "INNER", "LEFT", "NATURAL", "OUTER", "RIGHT"]

/-- The kinds of token. -/
inductive TokenKind where
  /-- a keyword, in upper case -/
  | keyword (word : String)
  /-- an identifier: its name, and whether it was written in double quotes -/
  | ident (name : String) (doubleQuoted : Bool)
  /-- a string literal's bytes -/
  | string (bytes : Bytes)
  /-- a blob literal's bytes -/
  | blob (bytes : Bytes)
  /-- an integer literal as written -/
  | integer (text : String)
  /-- a literal with a point or an exponent, as written -/
  | float (text : String)
  /-- a number with digit separators, as written -/
  | separated (text : String)
  /-- a parameter as written -/
  | variable (text : String)
  /-- punctuation and operators, as written -/
  | punct (text : String)
  /-- the end of the text -/
  | eof
  /-- text that is no token -/
  | illegal
  deriving Repr, DecidableEq, Inhabited

/-- A token with the byte range it spans. -/
structure Token where
  kind : TokenKind
  start : Nat
  stop : Nat
  deriving Repr, Inhabited

namespace Token

/-- Whether the token is the keyword. -/
def isKeyword (t : Token) (k : String) : Bool :=
  match t.kind with
  | .keyword w => w == k
  | _ => false

/-- Whether the token is the punctuation. -/
def isPunct (t : Token) (p : String) : Bool :=
  match t.kind with
  | .punct q => q == p
  | _ => false

end Token

/-- Whether a byte may be part of an identifier: letters, digits, `_`, `$`
and every byte of a multi-byte character. -/
def isIdByte (b : UInt8) : Bool :=
  (0x61 ≤ b && b ≤ 0x7a) || (0x41 ≤ b && b ≤ 0x5a) || isDigitByte b || b == 0x5f || b == 0x24 ||
    b ≥ 0x80

/-- Whether a byte is a blank between tokens. -/
def isSpaceByte (b : UInt8) : Bool :=
  b == 0x20 || b == 0x09 || b == 0x0a || b == 0x0c || b == 0x0d

/-- Whether a byte may be part of a keyword: ASCII letters and `_`. -/
def isKeywordByte (b : UInt8) : Bool :=
  (0x61 ≤ b && b ≤ 0x7a) || (0x41 ≤ b && b ≤ 0x5a) || b == 0x5f

/-- Reads a quoted run closed by `delim`, where a doubled `delim` stands for
one: the bytes inside (undoubled), the number of bytes read after the opening
quote, and whether the closing quote was found. -/
def readQuotedRun (delim : UInt8) : Bytes → Bytes × Nat × Bool
  | [] => ([], 0, false)
  | b :: rest =>
    if b == delim then
      match rest with
      | c :: more =>
        if c == delim then
          let (t, n, closed) := readQuotedRun delim more
          (delim :: t, n + 2, closed)
        else ([], 1, true)
      | [] => ([], 1, true)
    else
      let (t, n, closed) := readQuotedRun delim rest
      (b :: t, n + 1, closed)

/-- The bytes of a block comment after its opening `/*`: how many are read
up to and including the closing `*/`, or to the end. -/
def blockCommentLength : Bytes → Nat
  | [] => 0
  | 0x2a :: 0x2f :: _ => 2
  | _ :: rest => blockCommentLength rest + 1

/-- Reads digits, allowing `_` among them; the count and whether `_` was seen. -/
def scanDigits (isDigit : UInt8 → Bool) : Bytes → Nat × Bool
  | [] => (0, false)
  | b :: rest =>
    if isDigit b then let (n, s) := scanDigits isDigit rest; (n + 1, s)
    else if b == 0x5f then let (n, _) := scanDigits isDigit rest; (n + 1, true)
    else (0, false)

/-- The length and kind of a number token at the front of the bytes. -/
def scanNumber (z : Bytes) : Nat × TokenKind :=
  let text (n : Nat) : String := lenientString (z.take n)
  match z with
  | 0x30 :: x :: h :: _ =>
    if (x == 0x78 || x == 0x58) && isHexByte h then
      let (n, sep) := scanDigits isHexByte (z.drop 2)
      let len := 2 + n
      let idRun := ((z.drop len).takeWhile isIdByte).length
      if idRun > 0 then (len + idRun, .illegal)
      else (len, if sep then .separated (text len) else .integer (text len))
    else decimalNumber text
  | _ => decimalNumber text
where
  decimalNumber (text : Nat → String) : Nat × TokenKind :=
    let (n, sep1) := scanDigits isDigitByte z
    let (n, sep2, isFloat) := match z.drop n with
      | 0x2e :: rest =>
        let (m, s) := scanDigits isDigitByte rest
        (n + 1 + m, s, true)
      | _ => (n, false, false)
    let (n, sep3, isFloat) := match z.drop n with
      | e :: rest =>
        if e == 0x65 || e == 0x45 then
          match rest with
          | d :: _ =>
            if isDigitByte d then
              let (m, s) := scanDigits isDigitByte rest
              (n + 1 + m, s, true)
            else if (d == 0x2b || d == 0x2d) && (match rest.drop 1 with
                | d2 :: _ => isDigitByte d2
                | [] => false) then
              let (m, s) := scanDigits isDigitByte (rest.drop 1)
              (n + 2 + m, s, true)
            else (n, false, isFloat)
          | [] => (n, false, isFloat)
        else (n, false, isFloat)
      | [] => (n, false, isFloat)
    let idRun := ((z.drop n).takeWhile isIdByte).length
    if idRun > 0 then (n + idRun, .illegal)
    else if sep1 || sep2 || sep3 then (n, .separated (text n))
    else if isFloat then (n, .float (text n))
    else (n, .integer (text n))

/-- The length of a parameter name after `$`, `@`, `:` or `#`: identifier
bytes, `::` pairs, and a parenthesized suffix after some name; none when the
name is empty or its parenthesis is not closed. -/
def scanVariableName : Nat → Bytes → Nat → Option Nat
  | 0, _, n => if n == 0 then none else some 0
  | fuel + 1, z, n =>
    match z with
    | b :: rest =>
      if isIdByte b then (scanVariableName fuel rest (n + 1)).map (· + 1)
      else if b == 0x28 && n > 0 then
        let inner := rest.takeWhile (fun c => !isSpaceByte c && c != 0x29)
        match rest.drop inner.length with
        | 0x29 :: _ => some (inner.length + 2)
        | _ => none
      else if b == 0x3a && rest.head? == some 0x3a then
        (scanVariableName fuel (rest.drop 1) n).map (· + 2)
      else if n == 0 then none else some 0
    | [] => if n == 0 then none else some 0

/-- Operators of two or three characters, longest first. -/
def longOperators : List String := ["->>", "<=", ">=", "<>", "!=", "==", "||", "<<", ">>", "->"]

/-- Operators of one character. -/
def shortOperators : List UInt8 :=
  [0x28, 0x29, 0x3b, 0x2c, 0x2e, 0x3d, 0x3c, 0x3e, 0x2b, 0x2d, 0x2a, 0x2f, 0x25, 0x26, 0x7c, 0x7e]

/-- The token at the front of the bytes: its kind and length; blanks and
comments come back as `none` with their length. -/
def nextToken (z : Bytes) : Option TokenKind × Nat :=
  match z with
  | [] => (some .eof, 0)
  | b :: rest =>
    let text (n : Nat) : String := lenientString (z.take n)
    if b == 0 then (some .eof, 0)
    else if isSpaceByte b then (none, 1 + (rest.takeWhile isSpaceByte).length)
    else if b == 0x2d && rest.head? == some 0x2d then
      (none, 2 + ((rest.drop 1).takeWhile (· != 0x0a)).length)
    else if b == 0x2f && rest.head? == some 0x2a && rest.length ≥ 2 then
      (none, 2 + blockCommentLength (rest.drop 1))
    else if b == 0xef && rest.take 2 == [0xbb, 0xbf] then (none, 3)
    else if (b == 0x78 || b == 0x58) && rest.head? == some 0x27 then
      let body := rest.drop 1
      let hex := body.takeWhile isHexByte
      match body.drop hex.length with
      | 0x27 :: _ =>
        if hex.length % 2 == 0 then
          (some (.blob (hexPairs hex)), 3 + hex.length)
        else (some .illegal, 3 + hex.length)
      | _ =>
        let run := body.takeWhile (· != 0x27)
        let closing := if (body.drop run.length).isEmpty then 0 else 1
        (some .illegal, 2 + run.length + closing)
    else if b == 0x27 || b == 0x22 || b == 0x60 then
      let (inner, n, closed) := readQuotedRun b rest
      if !closed then (some .illegal, 1 + n)
      else if b == 0x27 then (some (.string inner), 1 + n)
      else (some (.ident (lenientString inner) (b == 0x22)), 1 + n)
    else if b == 0x5b then
      let inner := rest.takeWhile (· != 0x5d)
      if inner.length < rest.length then (some (.ident (lenientString inner) false), inner.length + 2)
      else (some .illegal, 1 + rest.length)
    else if isDigitByte b || (b == 0x2e && (rest.head?.map isDigitByte).getD false) then
      let (n, k) := scanNumber z
      (some k, n)
    else if b == 0x3f then
      let ds := rest.takeWhile isDigitByte
      (some (.variable (text (1 + ds.length))), 1 + ds.length)
    else if b == 0x24 || b == 0x40 || b == 0x3a || b == 0x23 then
      match scanVariableName (rest.length + 1) rest 0 with
      | some n => (some (.variable (text (1 + n))), 1 + n)
      | none => (some .illegal, 1 + (rest.takeWhile isIdByte).length)
    else if isIdByte b then
      let word := b :: rest.takeWhile isIdByte
      let upper := word.map upperByte
      if word.all isKeywordByte && keywordBytes.contains upper then
        (some (.keyword (lenientString upper)), word.length)
      else (some (.ident (lenientString word) false), word.length)
    else
      match longOperators.find? (fun op => (bytesOf op).isPrefixOf z) with
      | some op => (some (.punct op), op.length)
      | none =>
        if shortOperators.contains b then (some (.punct (text 1)), 1)
        else (some .illegal, 1)
where
  hexPairs : Bytes → Bytes
    | a :: c :: more => UInt8.ofNat (hexOf a * 16 + hexOf c) :: hexPairs more
    | _ => []

/-- Splits statement text into tokens, up to and including the first that
is the end of the text or no token. -/
def tokenize (text : Bytes) : Array Token :=
  let rec go (acc : Array Token) (pos : Nat) (z : Bytes) : Nat → Array Token
    | 0 => acc.push { kind := .eof, start := pos, stop := pos }
    | fuel + 1 =>
      match nextToken z with
      | (none, n) => go acc (pos + n) (z.drop n) fuel
      | (some .eof, _) => acc.push { kind := .eof, start := pos, stop := pos }
      | (some .illegal, n) => acc.push { kind := .illegal, start := pos, stop := pos + max n 1 }
      | (some k, n) => go (acc.push { kind := k, start := pos, stop := pos + n }) (pos + n) (z.drop n) fuel
  go #[] 0 text (text.length + 1)

end ReportExport.Sql
