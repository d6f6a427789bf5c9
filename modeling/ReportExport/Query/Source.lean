import ReportExport.Query.Select

/-!
# Query sources

Rows are exported from a query source: rows held in memory, or a base SELECT
of the record database. A source takes predicates one by one (each ANDed onto
the ones before), fetches its rows in offset windows or all at once, and
shows its compiled text without running it.

An in-memory source may be given a point at which it gives out: a window that
starts at or past that offset fails, and so does fetching everything, with
the backend's message "source went away". Reports use it to stand for a
source that breaks off in the middle of an export.
-/

namespace ReportExport.Query

open Store

/-- Why fetching rows failed. -/
inductive QueryError where
  /-- The database driver refused the query. -/
  | database (e : DriverError)
  /-- The source failed with its own message. -/
  | backend (message : String)
  deriving Inhabited

namespace QueryError

/-- The error's text. -/
def message : QueryError → String
  | .database e => "Database error: " ++ e.message
  | .backend m => m

/-- The variant's name. -/
def variantName : QueryError → String
  | .database _ => "Database"
  | .backend _ => "Backend"

end QueryError

/-- The message of a source that gave out. -/
def wentAway : String := "source went away"

/-- A source rows are fetched from. -/
inductive QuerySource where
  /-- Rows in memory, giving out from an offset on when one is set. -/
  | memory (q : MemoryQuery) (failAt : Option Nat)
  /-- A base SELECT of the record database. -/
  | select (q : SelectQuery)
  deriving Inhabited

namespace QuerySource

/-- The backend's name, as compile errors give it. -/
def backend : QuerySource → Backend
  | .memory _ _ => .memory
  | .select _ => .sqlite

/-- Adds a predicate. -/
def apply : QuerySource → Predicate → Except CompileError QuerySource
  | .memory q failAt, p => (q.apply p).map (.memory · failAt)
  | .select q, p => (q.apply p).map .select

/-- Compiles every filter of a list and adds it, stopping at the first failure. -/
def applyAll (src : QuerySource) (filters : List Filter) : Except CompileError QuerySource :=
  Query.applyAll apply src filters

/-- The compiled text and its bindings. -/
def compiled : QuerySource → CompiledQuery
  | .memory q _ => q.compiled
  | .select q => q.compiled

/-- A window of at most `size` rows from `offset`, in query order. -/
def fetchChunk (src : QuerySource) (s : RecordStore) (size offset : Nat) :
    RecordStore × Except QueryError (List Row) :=
  match src with
  | .memory q failAt =>
    match failAt with
    | some limit => if limit ≤ offset then (s, .error (.backend wentAway)) else (s, .ok (q.fetchChunk size offset))
    | none => (s, .ok (q.fetchChunk size offset))
  | .select q =>
    let (s, r) := q.fetchChunk s size offset
    (s, r.mapError .database)

/-- Every row, in query order. -/
def fetchAll (src : QuerySource) (s : RecordStore) : RecordStore × Except QueryError (List Row) :=
  match src with
  | .memory q failAt =>
    if failAt.isSome then (s, .error (.backend wentAway)) else (s, .ok q.matching)
  | .select q =>
    let (s, r) := q.fetchAll s
    (s, r.mapError .database)

end QuerySource

end ReportExport.Query
