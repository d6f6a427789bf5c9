import ReportExport.Sql.Schema

/-!
# Errors of the record store

Two layers can refuse a request. The database driver refuses when the engine
reports an error, when the connection pool is closed, when a query that must
return a row returns none, or when a stored value does not fit the type it is
read as. The store adds its own causes on top: a migration that cannot be
applied, a stored value that no longer decodes into the domain (a status that
is not a status, bindings that are not a JSON array) and a failed write of
the host.

An error is shown two ways. The record repository reports it under
"SQLite error" and names the backend of a failed migration; the database
service, when it opens or checkpoints the database, reports it under
"Database error".
-/

namespace ReportExport.Store

open Sql

/-- Why the database driver refused a request. -/
inductive DriverError where
  /-- The engine reported an error. -/
  | database (e : SqlError)
  /-- The driver could not hand the arguments to the statement. -/
  | protocol (message : String)
  /-- The connection pool was closed. -/
  | poolClosed
  /-- A query that must return a row returned none. -/
  | rowNotFound
  /-- A row has no column of the name read. -/
  | columnNotFound (name : String)
  /-- A row has no column at the position read. -/
  | columnIndexOutOfBounds (index len : Nat)
  /-- A stored value does not fit the type it is read as; the column is named
  as the driver labels it. -/
  | columnDecode (column reason : String)
  deriving Inhabited

/-- The driver's text for its error. -/
def DriverError.message : DriverError → String
  | .database e => "error returned from database: " ++ e.render
  | .protocol message => "encountered unexpected or invalid data: " ++ message
  | .poolClosed => "attempted to acquire a connection on a closed pool"
  | .rowNotFound => "no rows returned by a query that expected to return at least one row"
  | .columnNotFound name => "no column found for name: " ++ name
  | .columnIndexOutOfBounds index len =>
    "column index out of bounds: the len is " ++ toString len ++ ", but the index is " ++ toString index
  | .columnDecode column reason =>
    "error occurred while decoding column " ++ column ++ ": " ++ reason

/-- Why a request to the record store failed. -/
inductive StoreError where
  /-- The driver refused the request. -/
  | driver (e : DriverError)
  /-- A schema migration could not be applied. -/
  | migrationFailed (version : Int) (name error : String)
  /-- A stored value no longer decodes into the domain. -/
  | corrupt (column reason : String)
  /-- The host failed to read or write. -/
  | io (message : String)
  deriving Inhabited

namespace StoreError

/-- The text of the error as the record repository reports it. -/
def message : StoreError → String
  | .driver e => "SQLite error: " ++ e.message
  | .migrationFailed version name error =>
    "Migration " ++ toString version ++ " (" ++ name ++ ") failed on sqlite: " ++ error
  | .corrupt column reason => "Corrupt data in " ++ column ++ ": " ++ reason
  | .io message => "IO error: " ++ message

/-- The text of the error as the database service reports it. -/
def serviceMessage : StoreError → String
  | .driver e => "Database error: " ++ e.message
  | .migrationFailed version name error =>
    "Migration " ++ toString version ++ " (" ++ name ++ ") failed: " ++ error
  | .corrupt column reason => "Corrupt column " ++ column ++ ": " ++ reason
  | .io message => "IO error: " ++ message

/-- The name of the error's cause. -/
def kind : StoreError → String
  | .driver _ => "Sqlite"
  | .migrationFailed _ _ _ => "MigrationFailed"
  | .corrupt _ _ => "Corrupt"
  | .io _ => "Io"

end StoreError

end ReportExport.Store
