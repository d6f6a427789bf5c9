import ReportExport.Store.Column
import ReportExport.Sql.Connection

/-!
# The record database

One connection to the engine holds the export records and any application
tables a report reads. Requests go through a pool that can be closed; once
closed, every request is refused with `poolClosed` and changes nothing.

A request runs a statement text with positional arguments. A statement that
fails leaves the database as it was before it, while the statements of the
text before it keep their effect. A transaction brackets several requests:
when one of them fails the transaction is rolled back, so none of them leaves
a trace.

Writes stamp the store's clock, in seconds since the epoch.
-/

namespace ReportExport.Store

open Sql

/-- The record database: the engine connection, whether the pool is closed,
and the time stamped on writes. -/
structure RecordStore where
  conn : Connection := {}
  closed : Bool := false
  clock : Int := 1700000000
  deriving Inhabited

/-- The outcome of a request: the store after it and the result. -/
abbrev Outcome (α : Type) := RecordStore × Except StoreError α

namespace RecordStore

/-- Runs a statement text with arguments. -/
def run (s : RecordStore) (text : String) (args : List SqlValue) :
    RecordStore × Except DriverError ScriptResult :=
  if s.closed then (s, .error .poolClosed)
  else
    let (conn, r) := s.conn.run text args
    ({ s with conn }, r.mapError fun
      | .engine e => .database e
      | .protocol m => .protocol m)

/-- The rows of a request, each with the column names. -/
def fetchAll (s : RecordStore) (text : String) (args : List SqlValue) :
    RecordStore × Except DriverError (List ResultRow) :=
  let (s, r) := s.run text args
  (s, r.map fun res => res.rows.map fun (columns, values) => { columns, values })

/-- The first row of a request, if any. -/
def fetchOptional (s : RecordStore) (text : String) (args : List SqlValue) :
    RecordStore × Except DriverError (Option ResultRow) :=
  let (s, r) := s.fetchAll text args
  (s, r.map List.head?)

/-- The first row of a request, which must return one. -/
def fetchOne (s : RecordStore) (text : String) (args : List SqlValue) :
    RecordStore × Except DriverError ResultRow :=
  let (s, r) := s.fetchOptional text args
  (s, r.bind fun row? => match row? with
    | some row => .ok row
    | none => .error .rowNotFound)

/-- The number of rows a request changed. -/
def execute (s : RecordStore) (text : String) (args : List SqlValue) :
    RecordStore × Except DriverError Nat :=
  let (s, r) := s.run text args
  (s, r.map (·.changes))

/-- Runs a sequence of requests in a transaction: all of them take effect, or
on the first failure none does. -/
def transaction {α : Type} (s : RecordStore) (body : RecordStore → Outcome α) : Outcome α :=
  match s.run "BEGIN" [] with
  | (s, .error e) => (s, .error (.driver e))
  | (s, .ok _) =>
    match body s with
    | (s, .error e) => ((s.run "ROLLBACK" []).1, .error e)
    | (s, .ok a) =>
      match s.run "COMMIT" [] with
      | (s, .error e) => ((s.run "ROLLBACK" []).1, .error (.driver e))
      | (s, .ok _) => (s, .ok a)

/-- Closes the pool. -/
def close (s : RecordStore) : RecordStore := { s with closed := true }

end RecordStore

end ReportExport.Store
