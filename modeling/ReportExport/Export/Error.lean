import ReportExport.Report.Kind
import ReportExport.Store.Error
import ReportExport.Storage.Disk
import ReportExport.Queue.Basic
import ReportExport.Export.Status

/-!
# Export errors

Everything that can stop a dispatch or a run: a missing record, a status
change the record's status does not allow, a retry of a record that did not
fail, a stored descriptor that no longer reads, and the errors of the report,
the query, the CSV output, the host, the disks, the queue and the record
store, each keeping its own text under its own heading.
-/

namespace ReportExport

open Query Store

/-- Why a dispatch or a run failed. -/
inductive ExportError where
  | notFound (id : Int)
  | invalidTransition (id : Int) (src dst : ExportStatus)
  | notRetryable (id : Int) (status : ExportStatus)
  /-- The stored descriptor does not read; the reader's message. -/
  | descriptor (message : String)
  | report (e : ReportError)
  | query (e : QueryError)
  | sink (message : String)
  | io (message : String)
  | storage (e : StorageError)
  | queue (e : QueueError)
  | data (e : StoreError)
  deriving Inhabited

namespace ExportError

/-- The error's text. -/
def message : ExportError → String
  | .notFound id => "Export " ++ toString id ++ " not found"
  | .invalidTransition id src dst =>
    "Export " ++ toString id ++ " cannot move from " ++ src.token ++ " to " ++ dst.token
  | .notRetryable id status =>
    "Export " ++ toString id ++ " is " ++ status.token ++ " and cannot be retried"
  | .descriptor m => "Invalid report descriptor: " ++ m
  | .report e => e.message
  | .query e => e.message
  | .sink m => "CSV write failed: " ++ m
  | .io m => "IO error: " ++ m
  | .storage e => "Storage error: " ++ e.message
  | .queue e => "Queue error: " ++ e.message
  | .data e => "Data error: " ++ e.message

/-- The error's variant path: the variant, and for a wrapped error the inner
error's type and variant. -/
def variantPath : ExportError → String
  | .notFound _ => "NotFound"
  | .invalidTransition _ _ _ => "InvalidTransition"
  | .notRetryable _ _ => "NotRetryable"
  | .descriptor _ => "Descriptor"
  | .report e => "ReportError." ++ e.variantPath
  | .query e => "QueryError." ++ e.variantName
  | .sink _ => "Sink"
  | .io _ => "Io"
  | .storage e => "StorageError." ++ e.variantName
  | .queue e => "QueueError." ++ e.variantName
  | .data e => "DataError." ++ e.kind

/-- Whether the error is a refused status change. -/
def isInvalidTransition : ExportError → Bool
  | .invalidTransition _ _ _ => true
  | _ => false

end ExportError

end ReportExport
