import ReportExport.Json.Basic

/-!
# Queued jobs

A job is delivered to one worker at a time. The worker acknowledges it, or
hands it back as failed, and the queue decides by its own policy whether the
job is tried again or parked among the dead letters.
-/

namespace ReportExport

/-- A job on a queue: its id, the queue's name, the payload and how many
deliveries of it have failed so far, counted in 32 bits: the count wraps
to zero past its largest value. -/
structure QueuedJob where
  id : String
  queue : String
  payload : Json
  attempts : UInt32 := 0
  deriving Inhabited

/-- What the queue did with a failed job. -/
inductive FailureDisposition where
  /-- Back on the queue for another attempt. -/
  | released (attempts : UInt32)
  /-- Attempts exhausted; parked among the dead letters. -/
  | deadLettered
  deriving Repr, DecidableEq

/-- Why a queue refused a request. -/
inductive QueueError where
  /-- A job named a connection the queue does not serve. -/
  | unknownConnection (connection : String)
  /-- An acknowledgement or failure for a job that is not reserved. -/
  | notReserved (id : String)
  /-- A payload that is not an export job; the decoding message. -/
  | payload (message : String)
  deriving Repr, DecidableEq

namespace QueueError

/-- The error's text. -/
def message : QueueError → String
  | .unknownConnection c => "Unknown queue connection: " ++ c
  | .notReserved id => "Job " ++ id ++ " is not reserved"
  | .payload m => "Invalid job payload: " ++ m

/-- The variant's name. -/
def variantName : QueueError → String
  | .unknownConnection _ => "UnknownConnection"
  | .notReserved _ => "NotReserved"
  | .payload _ => "Payload"

end QueueError

end ReportExport
