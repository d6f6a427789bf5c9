import ReportExport.Query.Memory
import ReportExport.Store.Database

/-!
# Queries over a base SELECT

A base SELECT statement of the record database, with bindings for its own
placeholders, an optional ORDER BY clause and an optional whitelist of the
columns filters may name. Filters are applied to the base as a derived table,
so that predicates and the ordering name the base's output columns:

    SELECT * FROM (<base>) AS source WHERE <p1> AND <p2> ORDER BY <order>

Without predicates the base is used as it stands. The base's bindings come
before the predicates' bindings; a window adds `LIMIT ? OFFSET ?`.

A fetched row maps each column name to its value by storage class: integers
and doubles become numbers (a non-finite double null), text stays text and a
blob becomes lowercase hexadecimal. A name that occurs twice keeps its first
place and its last value.
-/

namespace ReportExport.Query

open Store Sql

/-- A query over a base SELECT of the record database. -/
structure SelectQuery where
  base : String
  baseBindings : List Json := []
  orderBy : Option String := none
  filterable : Option (List String) := none
  clauses : List String := []
  bindings : List Json := []
  deriving Inhabited

namespace SelectQuery

/-- Adds a predicate, unless a whitelist is set and does not name its column. -/
def apply (q : SelectQuery) (p : Predicate) : Except CompileError SelectQuery :=
  match q.filterable with
  | some cs =>
    if cs.contains p.column then
      .ok { q with clauses := q.clauses ++ [p.sql], bindings := q.bindings ++ p.bindings }
    else .error (.unknownColumn .sqlite p.column)
  | none => .ok { q with clauses := q.clauses ++ [p.sql], bindings := q.bindings ++ p.bindings }

/-- The compiled text and its bindings. -/
def compiled (q : SelectQuery) : CompiledQuery :=
  let filtered := if q.clauses.isEmpty then q.base
    else "SELECT * FROM (" ++ q.base ++ ") AS source WHERE " ++ " AND ".intercalate q.clauses
  let ordered := match q.orderBy with
    | some order => filtered ++ " ORDER BY " ++ order
    | none => filtered
  ⟨ordered, q.baseBindings ++ q.bindings⟩

/-- A result row as a row of data; a text that is not UTF-8 is refused,
naming the column by its position. -/
def rowOf (r : ResultRow) : Except DriverError Row :=
  ((List.range r.values.length).zip (r.columns.zip r.values)).foldlM (fun row (i, c, v) => do
    let j ← jsonOfValue (.index i) v
    pure (Json.upsert c j row)) []

/-- Runs the compiled text with extra integer arguments after the bindings. -/
def fetch (q : SelectQuery) (s : RecordStore) (sql : String) (extra : List Int) :
    RecordStore × Except DriverError (List Row) :=
  let args := q.compiled.bindings.map valueOfJson ++ extra.map SqlValue.integer
  let (s, rows) := s.fetchAll sql args
  (s, rows.bind (·.mapM rowOf))

/-- A window of the rows. -/
def fetchChunk (q : SelectQuery) (s : RecordStore) (size offset : Nat) :
    RecordStore × Except DriverError (List Row) :=
  q.fetch s (q.compiled.sql ++ " LIMIT ? OFFSET ?") [size, offset]

/-- Every row. -/
def fetchAll (q : SelectQuery) (s : RecordStore) : RecordStore × Except DriverError (List Row) :=
  q.fetch s q.compiled.sql []

end SelectQuery

end ReportExport.Query
