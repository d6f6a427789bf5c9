import ReportExport.Api.Collections
import ReportExport.Query.Memory

/-!
# The JSON command interface: in-memory queries

Matching rows against one filter, and running an in-memory query with filters,
windows and its compiled text.
-/

namespace ReportExport.Api

open Query

/-- The rows of a request: an array of objects. -/
def rowsOf (req : Json) (key : String := "rows") : Except String (List Row) := do
  let items ← arr req key
  items.mapM fun
    | .obj ms => .ok ms
    | _ => .error "rows must be objects"

/-- The view of a compiled query. -/
def compiledQueryView (q : CompiledQuery) : Json :=
  .obj [("sql", .str q.sql), ("bindings", .arr q.bindings), ("raw_sql", .str q.rawSql)]

/-- `matches`: evaluates one filter on rows. -/
def matchesOp (req : Json) : Handler := do
  let rows ← rowsOf req
  match Filter.decode ((req.get? "filter").getD .null) with
  | .error e => return decodeFailure e.valueMessage
  | .ok f =>
    match Predicate.ofFilter f with
    | .error e => return CompileError.answer e
    | .ok p =>
      return ok (.obj [("predicate", predicateView p), ("matches", .arr (rows.map (fun r => .bool (p.holds r))))])

/-- The filters of a request: an array of wire objects, or a collection source. -/
def filtersOf (s : FilterSettings) (req : Json) : Except String (Except FilterError FilterCollection) :=
  match req.get? "filters" with
  | none | some .null => .ok (.ok {})
  | some (.arr items) => .ok (FilterCollection.ofArray items none)
  | some src => readSource s src

/-- The rows of each fetch: `[size, offset]` is a window, anything else all rows. -/
def fetchView (fetchAll : List Row) (chunk : Nat → Nat → List Row) (fetch : Json) : Json :=
  let rows := match fetch with
    | .arr [.num (.int size), .num (.int offset)] => chunk size.toNat offset.toNat
    | _ => fetchAll
  .arr (rows.map Json.obj)

/-- `memory_query`: builds an in-memory query, applies filters and fetches. -/
def memoryQueryOp (req : Json) : Handler := do
  let rows ← rowsOf req
  let name := ((req.get? "name").bind Json.str?).getD "rows"
  let columns := (req.get? "columns").bind Json.arr? |>.map (·.filterMap Json.str?)
  let q : MemoryQuery := { name, rows, columns }
  match ← filtersOf (settingsOf req) req with
  | .error e => return FilterError.answer e
  | .ok c =>
    match applyAll MemoryQuery.apply q c.filters with
    | .error e => return CompileError.answer e
    | .ok q' =>
      let fetches := ((req.get? "fetches").bind Json.arr?).getD []
      return ok (.obj [("backend", .str "memory"), ("unchanged", .bool (q'.compiled == q.compiled)),
        ("compiled", compiledQueryView q'.compiled), ("all", .arr (q'.matching.map Json.obj)),
        ("fetches", .arr (fetches.map (fetchView q'.matching q'.fetchChunk)))])

end ReportExport.Api
