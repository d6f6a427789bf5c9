import ReportExport.Export.Status
import ReportExport.Decimal.Binary
import ReportExport.Json.Print

/-!
# Export records

One record per export run. It keeps the stored descriptor the worker rebuilds
the report from, the compiled query for audit, where the run stands, how far
it got, where the file goes and which queue job carries it. Times are seconds
since the epoch.
-/

namespace ReportExport

/-- One export run. -/
structure ExportRecord where
  id : Int
  reportKind : String
  descriptorText : String
  querySql : String
  queryBindings : List Json
  status : ExportStatus
  rowsProcessed : Int := 0
  totalRows : Option Int := none
  startedAt : Option Int := none
  completedAt : Option Int := none
  failedAt : Option Int := none
  errorMessage : Option String := none
  retriedFromId : Option Int := none
  disk : String
  path : String
  queue : String
  connection : Option String := none
  jobId : Option String := none
  createdAt : Int := 0
  updatedAt : Int := 0
  deriving Inhabited

namespace ExportRecord

/-- Whether the run is over. -/
def isFinished (r : ExportRecord) : Bool := r.status.isFinished

/-- Whether the run is under way. -/
def isRunning (r : ExportRecord) : Bool := r.status.isRunning

/-- Only a failed run may be retried. -/
def canRetry (r : ExportRecord) : Bool := r.status == .failed

/-- The percentage of the total processed, rounded half away from zero to two
decimals; none until a positive total is known. -/
def progressPercentage (r : ExportRecord) : Option Float :=
  match r.totalRows with
  | some total =>
    if 0 < total then
      let percent := Decimal.ofInt r.rowsProcessed / Decimal.ofInt total * 100.0
      some ((percent * 100.0).round / 100.0)
    else none
  | none => none

end ExportRecord

end ReportExport
