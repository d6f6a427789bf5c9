import ReportExport.Report.Headers
import ReportExport.Json.Print

/-!
# CSV output

The sink writes rows as CSV. The first row fixes the column order and is
preceded by the header row, whose cells are the columns' labels. Later rows
follow that order: a missing column gives an empty cell and an extra one is
dropped.

A field is quoted only when it holds a comma, a double quote, a carriage
return or a line feed; inside quotes a double quote is doubled. A record that
would be written as nothing at all (no fields, or one empty field) is written
as `""` so that it still reads back as a record. Every record ends with a line
feed.
-/

namespace ReportExport.Csv

/-- Whether a field must be quoted. -/
def needsQuotes (field : String) : Bool :=
  field.toList.any (fun c => c == ',' || c == '"' || c == '\r' || c == '\n')

/-- A field as written. -/
def field (s : String) : String :=
  if needsQuotes s then
    "\"" ++ String.ofList (s.toList.flatMap (fun c => if c == '"' then ['"', '"'] else [c])) ++ "\""
  else s

/-- A record as written, with its line feed. -/
def record (fields : List String) : String :=
  let body := ",".intercalate (fields.map field)
  (if body.isEmpty then "\"\"" else body) ++ "\n"

/-- The text of a cell: empty for null or a missing column, the string itself,
`1`/`0` for booleans, the JSON text of numbers, arrays and objects. -/
def cell : Option Json → String
  | none | some .null => ""
  | some (.str s) => s
  | some (.bool b) => if b then "1" else "0"
  | some other => other.compact

end Csv

/-- A CSV file being written. -/
structure CsvSink where
  headers : HeaderMap
  columns : Option (List String) := none
  rows : Nat := 0
  text : String := ""
  deriving Inhabited

namespace CsvSink

/-- A sink with no rows yet. -/
def create (headers : HeaderMap) : CsvSink := { headers }

/-- Writes one row, preceded by the header row on the first call. -/
def writeRow (s : CsvSink) (row : Row) : CsvSink :=
  let (columns, text) := match s.columns with
    | some cs => (cs, s.text)
    | none =>
      let cs := row.map Prod.fst
      (cs, s.text ++ Csv.record (cs.map s.headers.labelFor))
  { s with columns := some columns, rows := s.rows + 1,
           text := text ++ Csv.record (columns.map (fun c => Csv.cell (Json.lookup c row))) }

end CsvSink

end ReportExport
