import ReportExport.Query.Source
import ReportExport.Report.Headers
import ReportExport.Json.Decode

/-!
# Report kinds

A report supplies the base query, the header labels, the file name and,
optionally, its own chunk size; its kind and arguments are all a worker needs
to build it again. The library knows these kinds:

* `table`: a SELECT of the record database, with bindings, an ORDER BY, header
  labels, a whitelist of filterable columns and a chunk size, all read from
  its arguments;
* `rows`: rows given in its arguments, optionally giving out from an offset
  on, or refusing to make a query at all;
* `plain`: three fixed rows, with no arguments, no header labels and no chunk
  size of its own;
* `broken`: a kind whose arguments are never valid.
-/

namespace ReportExport

open Query

/-- Why a report could not be built or queried. -/
inductive ReportError where
  | unknownKind (kind : String)
  | invalidArguments (kind reason : String)
  | query (e : QueryError)
  | compile (e : CompileError)
  deriving Inhabited

namespace ReportError

/-- The error's text. -/
def message : ReportError → String
  | .unknownKind kind => "Unknown report kind: " ++ kind
  | .invalidArguments kind reason => "Invalid arguments for report '" ++ kind ++ "': " ++ reason
  | .query e => e.message
  | .compile e => e.message

/-- The error's variant path: the variant, and for a wrapped error the inner
error's type and variant. -/
def variantPath : ReportError → String
  | .unknownKind _ => "UnknownKind"
  | .invalidArguments _ _ => "InvalidArguments"
  | .query e => "QueryError." ++ e.variantName
  | .compile (.invalidOperand _ _ _) => "CompileError.InvalidOperand"
  | .compile (.unknownColumn _ _) => "CompileError.UnknownColumn"

end ReportError

/-- The arguments of a `table` report. -/
structure TableArgs where
  sql : String
  filename : String
  bindings : List Json := []
  orderBy : Option String := none
  headers : HeaderMap := {}
  filterable : Option (List String) := none
  chunkSize : Option Nat := none
  deriving Inhabited

namespace TableArgs

/-- The stored form: empty bindings and headers and absent options are left
out. -/
def toJson (a : TableArgs) : Json :=
  .obj ([("sql", .str a.sql), ("filename", .str a.filename)] ++
    (if a.bindings.isEmpty then [] else [("bindings", .arr a.bindings)]) ++
    (match a.orderBy with
     | some o => [("order_by", .str o)]
     | none => []) ++
    (if a.headers.isEmpty then [] else [("headers", a.headers.toJson)]) ++
    (match a.filterable with
     | some cs => [("filterable", .arr (cs.map .str))]
     | none => []) ++
    (match a.chunkSize with
     | some n => [("chunk_size", .nat n)]
     | none => []))

/-- Decodes the arguments: an object by field names, or an array by position. -/
def decode (j : Json) : Decoded TableArgs :=
  let anyValue : Json → Decoded Json := Json.asValue
  let strings := Json.asListOf Json.asString
  match j with
  | .obj ms => do
    let fs : Fields := ⟨ms⟩
    fs.check [.of "sql" Json.asString, .of "filename" Json.asString,
      .of "bindings" (Json.asListOf anyValue), .of "order_by" (Json.asOption Json.asString),
      .of "headers" HeaderMap.decode, .of "filterable" (Json.asOption strings),
      .of "chunk_size" (Json.asOption Json.asUsize)]
    let sql ← fs.required "sql" Json.asString
    let filename ← fs.required "filename" Json.asString
    let bindings ← fs.withDefault "bindings" [] (Json.asListOf anyValue)
    let orderBy ← fs.optional "order_by" Json.asString
    let headers ← fs.withDefault "headers" {} HeaderMap.decode
    let filterable ← fs.optional "filterable" strings
    let chunkSize ← fs.optional "chunk_size" Json.asUsize
    pure { sql, filename, bindings, orderBy, headers, filterable, chunkSize }
  | .arr items => do
    let it : Items := ⟨items, "struct TableReportArgs with 7 elements"⟩
    let sql ← it.required 0 Json.asString
    let filename ← it.required 1 Json.asString
    let bindings ← it.withDefault 2 [] (Json.asListOf anyValue)
    let orderBy ← it.withDefault 3 none (Json.asOption Json.asString)
    let headers ← it.withDefault 4 {} HeaderMap.decode
    let filterable ← it.withDefault 5 none (Json.asOption strings)
    let chunkSize ← it.withDefault 6 none (Json.asOption Json.asUsize)
    it.noneBeyond 7
    pure { sql, filename, bindings, orderBy, headers, filterable, chunkSize }
  | _ => j.invalidType "struct TableReportArgs"

end TableArgs

/-- The arguments of a `rows` report, read leniently: anything missing or of
another type takes its default. -/
structure RowsArgs where
  /-- The arguments as given, which the report stores unchanged. -/
  given : Json
  rows : List Row := []
  columns : Option (List String) := none
  headers : HeaderMap := {}
  filename : String := "rows.csv"
  chunkSize : Option Nat := none
  failAt : Option Nat := none
  failQuery : Bool := false
  name : String := "rows"
  deriving Inhabited

namespace RowsArgs

/-- A non-negative integer member. -/
def natMember (ms : List (String × Json)) (key : String) : Option Nat :=
  match Json.lookup key ms with
  | some (.num (.int i)) => if 0 ≤ i then some i.toNat else none
  | _ => none

/-- A text member. -/
def textMember (ms : List (String × Json)) (key : String) : Option String :=
  match Json.lookup key ms with
  | some (.str s) => some s
  | _ => none

/-- The `[column, label]` pairs of a header list; other items are skipped. -/
def headerPairs : List Json → List (String × String)
  | [] => []
  | .arr [.str c, .str l] :: rest => (c, l) :: headerPairs rest
  | _ :: rest => headerPairs rest

/-- Reads the arguments, which must be an object. -/
def read (j : Json) : Except String RowsArgs :=
  match j with
  | .obj ms =>
    .ok { given := j
          rows := match Json.lookup "rows" ms with
            | some (.arr items) => items.filterMap fun
                | .obj row => some row
                | _ => none
            | _ => []
          columns := match Json.lookup "columns" ms with
            | some (.arr items) => some (items.filterMap Json.str?)
            | _ => none
          headers := match Json.lookup "headers" ms with
            | some (.arr items) => HeaderMap.ofPairs (headerPairs items)
            | _ => {}
          filename := (textMember ms "filename").getD "rows.csv"
          chunkSize := natMember ms "chunk_size"
          failAt := natMember ms "fail_at"
          failQuery := Json.lookup "fail_query" ms == some (.bool true)
          name := (textMember ms "name").getD "rows" }
  | _ => .error "arguments must be an object"

end RowsArgs

/-- The fixed rows of a `plain` report. -/
def plainRows : List Row :=
  [[("id", .nat 1), ("name", .str "ant")], [("id", .nat 2), ("name", .str "bee")],
   [("id", .nat 3), ("name", .str "cat")]]

/-- A report of one of the library's kinds. -/
inductive Report where
  | table (args : TableArgs)
  | rows (args : RowsArgs)
  | plain
  deriving Inhabited

namespace Report

/-- The kind, which names the report's builder. -/
def kind : Report → String
  | .table _ => "table"
  | .rows _ => "rows"
  | .plain => "plain"

/-- The arguments stored in a descriptor. -/
def arguments : Report → Json
  | .table a => a.toJson
  | .rows a => a.given
  | .plain => .null

/-- A fresh, unfiltered query source. -/
def query : Report → Except QueryError QuerySource
  | .table a => .ok (.select { base := a.sql, baseBindings := a.bindings, orderBy := a.orderBy,
                                filterable := a.filterable })
  | .rows a =>
    if a.failQuery then .error (.backend "query unavailable")
    else .ok (.memory { name := a.name, rows := a.rows, columns := a.columns } a.failAt)
  | .plain => .ok (.memory { name := "plain", rows := plainRows } none)

/-- The file name of the export. -/
def filename : Report → String
  | .table a => a.filename
  | .rows a => a.filename
  | .plain => "plain.csv"

/-- The header labels. -/
def headers : Report → HeaderMap
  | .table a => a.headers
  | .rows a => a.headers
  | .plain => {}

/-- The report's own chunk size, if it has one. -/
def chunkSize : Report → Option Nat
  | .table a => a.chunkSize
  | .rows a => a.chunkSize
  | .plain => none

end Report

end ReportExport
