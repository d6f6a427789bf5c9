import ReportExport.Export.Error
import ReportExport.Config.File

/-!
# Application errors and their causes

An error shown to a user is its own text followed by the texts of the errors
that caused it, outermost first, joined by `": "`; a command line shows only
the outermost text. Each error below lists that chain of causes.

An error whose text embeds another's does not always name it as its cause:
a record-store error of the driver keeps the driver's text but not the
driver's error, while the database service's own errors, the query errors
and the host errors keep their cause.
-/

namespace ReportExport

open Store Query Config

/-- The driver error's text followed by its causes. -/
def Store.DriverError.causes : DriverError → List String
  | .database e => [DriverError.message (.database e), e.render]
  | .columnDecode column reason => [DriverError.message (.columnDecode column reason), reason]
  | e => [e.message]

/-- The causes of a record-store error as the repository reports it. -/
def Store.StoreError.causes : StoreError → List String
  | .io m => [StoreError.message (.io m), m]
  | e => [e.message]

/-- The causes of a record-store error as the database service reports it. -/
def Store.StoreError.serviceCauses : StoreError → List String
  | .driver e => ("Database error: " ++ e.message) :: e.causes
  | .io m => ["IO error: " ++ m, m]
  | e => [e.serviceMessage]

/-- The causes of a query error. -/
def Query.QueryError.causes : QueryError → List String
  | .database e => ("Database error: " ++ e.message) :: e.causes
  | .backend m => [m]

/-- The causes of a report error; a query error shows through unchanged. -/
def ReportError.causes : ReportError → List String
  | .query e => e.causes
  | e => [e.message]

/-- The causes of a storage error. -/
def StorageError.causes : StorageError → List String
  | .io e => [StorageError.message (.io e), e.message]
  | e => [e.message]

/-- The causes of a queue error. -/
def QueueError.causes : QueueError → List String
  | .payload m => [QueueError.message (.payload m), m]
  | e => [e.message]

/-- The causes of an export error. -/
def ExportError.causes : ExportError → List String
  | .report e => e.causes
  | .query e => e.causes
  | .sink m => [ExportError.message (.sink m), m]
  | .io m => [ExportError.message (.io m), m]
  | .storage e => ("Storage error: " ++ e.message) :: e.causes
  | .queue e => ("Queue error: " ++ e.message) :: e.causes
  | .data e => ("Data error: " ++ e.message) :: e.causes
  | e => [e.message]

/-- Why the application could not start or a command failed. -/
inductive AppError where
  /-- The configuration could not be loaded. -/
  | config (e : LoadError)
  /-- The database at the shown path could not be opened or migrated. -/
  | openDatabase (path : String) (cause : StoreError)
  | export (e : ExportError)
  deriving Inhabited

namespace AppError

/-- The error's text followed by its causes. -/
def causes : AppError → List String
  | .config e => e.causes
  | .openDatabase path cause => ("Failed to open export database: " ++ path) :: cause.serviceCauses
  | .export e => e.causes

/-- The error's text with every cause. -/
def message (e : AppError) : String := ": ".intercalate e.causes

/-- The error's own text, without its causes. -/
def headline (e : AppError) : String := e.causes.headD ""

end AppError

end ReportExport
