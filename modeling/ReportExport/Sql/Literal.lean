import ReportExport.Json.Print

/-!
# SQL text

Pieces of SQL written from values: double-quoted identifiers (an inner quote
is doubled), single-quoted literals (an inner apostrophe is doubled), LIKE
patterns whose `\`, `%` and `_` stand for themselves under `ESCAPE '\'`, and
the substitution of literals for `?` placeholders.
-/

namespace ReportExport.Sql

/-- Doubles every occurrence of a quote character. -/
def doubleQuoteChar (q : Char) (s : String) : String :=
  String.ofList (s.toList.flatMap (fun c => if c = q then [q, q] else [c]))

/-- A double-quoted identifier. -/
def quoteIdentifier (name : String) : String :=
  "\"" ++ doubleQuoteChar '"' name ++ "\""

/-- Escapes the LIKE wildcards and the escape character itself. -/
def escapeLikeChar (c : Char) : List Char :=
  if c = '\\' then ['\\', '\\']
  else if c = '%' then ['\\', '%']
  else if c = '_' then ['\\', '_']
  else [c]

/-- A text that a LIKE pattern with `ESCAPE '\'` matches literally. -/
def escapeLike (s : String) : String :=
  String.ofList (s.toList.flatMap escapeLikeChar)

/-- A single-quoted SQL string literal. -/
def quoteText (s : String) : String :=
  "'" ++ doubleQuoteChar '\'' s ++ "'"

/-- A value as an SQL literal: `NULL`, `1`/`0` for booleans, the number's
text, a quoted string, and other values as their quoted compact JSON. -/
def literal : Json → String
  | .null => "NULL"
  | .bool true => "1"
  | .bool false => "0"
  | .num n => n.text
  | .str s => quoteText s
  | j => quoteText j.compact

/-- Replaces each `?` outside single-quoted runs by the next binding's literal;
an apostrophe toggles the quoted state, and `?` beyond the bindings stay. -/
def interpolateChars (bindings : List Json) (quoted : Bool) : List Char → List Char
  | [] => []
  | c :: rest =>
    if c = '\'' then c :: interpolateChars bindings (!quoted) rest
    else if c = '?' && !quoted then
      match bindings with
      | b :: bs => (literal b).toList ++ interpolateChars bs quoted rest
      | [] => c :: interpolateChars [] quoted rest
    else c :: interpolateChars bindings quoted rest

/-- The SQL text with its bindings written in place of the placeholders. -/
def interpolate (sql : String) (bindings : List Json) : String :=
  String.ofList (interpolateChars bindings false sql.toList)

end ReportExport.Sql
