/-!
# Export status

An export moves `pending → dispatched → processing → completed`, and may fail
from any of the first three. Completed and failed are final; dispatched and
processing count as running.
-/

namespace ReportExport

/-- Where an export stands. -/
inductive ExportStatus where
  | pending | dispatched | processing | completed | failed
  deriving Repr, DecidableEq, Inhabited

namespace ExportStatus

/-- Every status, in lifecycle order. -/
def all : List ExportStatus := [.pending, .dispatched, .processing, .completed, .failed]

/-- The lowercase token. -/
def token : ExportStatus → String
  | .pending => "pending"
  | .dispatched => "dispatched"
  | .processing => "processing"
  | .completed => "completed"
  | .failed => "failed"

/-- The capitalized label. -/
def label : ExportStatus → String
  | .pending => "Pending"
  | .dispatched => "Dispatched"
  | .processing => "Processing"
  | .completed => "Completed"
  | .failed => "Failed"

/-- Reads a token, exactly. -/
def ofToken? (s : String) : Option ExportStatus := all.find? (fun st => st.token == s)

/-- The message for a token that names no status. -/
def unknownMessage (s : String) : String := "Unknown export status: " ++ s

/-- Completed and failed exports are finished. -/
def isFinished : ExportStatus → Bool
  | .completed | .failed => true
  | _ => false

/-- Dispatched and processing exports are running. -/
def isRunning : ExportStatus → Bool
  | .dispatched | .processing => true
  | _ => false

/-- The statuses an export may move to this one from. -/
def predecessors : ExportStatus → List ExportStatus
  | .pending => []
  | .dispatched => [.pending]
  | .processing => [.dispatched]
  | .completed => [.processing]
  | .failed => [.pending, .dispatched, .processing]

/-- Whether an export may move from this status to `next`. -/
def canTransitionTo (s next : ExportStatus) : Bool := (predecessors next).contains s

/-- Every token reads back as its status. -/
theorem ofToken?_token (s : ExportStatus) : ofToken? s.token = some s := by
  cases s <;> rfl

end ExportStatus

end ReportExport
