import ReportExport.Queue.Basic

/-!
# The in-memory queue

Named FIFO queues. A popped job stays reserved until it is acknowledged or
failed. A failed job goes back on its queue after the backoff until
`maxAttempts` deliveries have failed; then it becomes a dead letter, and only
the most recent `deadLetterLimit` dead letters are kept.

Time is a clock in milliseconds that moves only when a wait runs out; an
entry carries the time it becomes visible. A job id is never queued twice nor
queued while reserved: pushing such a job does nothing.
-/

namespace ReportExport

/-- A queued job and the time it becomes visible. -/
structure QueueEntry where
  job : QueuedJob
  availableAt : Nat
  deriving Inhabited

/-- The in-memory queue. -/
structure MemoryQueue where
  connection : String := "memory"
  maxAttempts : UInt32 := 1
  backoffMs : Nat := 0
  deadLetterLimit : Nat := 1000
  /-- Entries of each named queue, oldest first. -/
  queues : List (String × List QueueEntry) := []
  /-- Reserved jobs, one per id. -/
  reserved : List QueuedJob := []
  /-- Dead letters with their last error, oldest first. -/
  deadLetters : List (QueuedJob × String) := []
  now : Nat := 0
  deriving Inhabited

namespace MemoryQueue

/-- The backend's name. -/
def backendName : String := "memory"

/-- A queue allowing `maxAttempts` deliveries (at least one) with a backoff in
seconds. -/
def create (maxAttempts : UInt32) (backoffSecs : Nat) : MemoryQueue :=
  { maxAttempts := max maxAttempts 1, backoffMs := backoffSecs * 1000 }

/-- The entries of a named queue. -/
def entries (q : MemoryQueue) (name : String) : List QueueEntry :=
  ((q.queues.find? (fun e => e.1 == name)).map Prod.snd).getD []

/-- Replaces the entries of a named queue. -/
def setEntries (q : MemoryQueue) (name : String) (es : List QueueEntry) : MemoryQueue :=
  if q.queues.any (fun e => e.1 == name) then
    { q with queues := q.queues.map (fun e => if e.1 == name then (name, es) else e) }
  else { q with queues := q.queues ++ [(name, es)] }

/-- Puts a job at the end of its queue. -/
def enqueue (q : MemoryQueue) (job : QueuedJob) (availableAt : Nat) : MemoryQueue :=
  q.setEntries job.queue (q.entries job.queue ++ [{ job := job, availableAt := availableAt }])

/-- Whether a job of that id is queued anywhere or reserved. -/
def knows (q : MemoryQueue) (id : String) : Bool :=
  q.queues.any (fun (_, es) => es.any (fun e => e.job.id == id)) ||
  q.reserved.any (fun j => j.id == id)

/-- The ids of every job queued, reserved or parked as a dead letter. -/
def jobIds (q : MemoryQueue) : List String :=
  q.queues.flatMap (·.2.map (·.job.id)) ++ q.reserved.map (·.id) ++ q.deadLetters.map (·.1.id)

/-- Pushes a job, visible at once; a job whose id is known is ignored. -/
def push (q : MemoryQueue) (job : QueuedJob) : MemoryQueue :=
  if q.knows job.id then q else q.enqueue job q.now

/-- Removes the first entry that satisfies a test. -/
def removeFirst (p : QueueEntry → Bool) : List QueueEntry → Option (QueueEntry × List QueueEntry)
  | [] => none
  | e :: rest =>
    if p e then some (e, rest)
    else (removeFirst p rest).map (fun (found, others) => (found, e :: others))

/-- Reserves the first visible job of a named queue. -/
def pop (q : MemoryQueue) (name : String) : Option QueuedJob × MemoryQueue :=
  match removeFirst (fun e => e.availableAt ≤ q.now) (q.entries name) with
  | none => (none, q)
  | some (e, rest) =>
    let q := q.setEntries name rest
    (some e.job, { q with reserved := q.reserved.filter (fun j => j.id != e.job.id) ++ [e.job] })

/-- The earliest time a job of a named queue becomes visible. -/
def nextAvailable (q : MemoryQueue) (name : String) : Option Nat :=
  (q.entries name).foldl (fun acc e => some (match acc with
    | some t => min t e.availableAt
    | none => e.availableAt)) none

/-- Reserves the first visible job, waiting up to `timeoutMs` for one: the
clock moves to the moment a job becomes visible, or to the deadline. -/
def wait (q : MemoryQueue) (name : String) (timeoutMs : Nat) : Option QueuedJob × MemoryQueue :=
  match q.pop name with
  | (some job, q) => (some job, q)
  | (none, q) =>
    let deadline := q.now + timeoutMs
    match q.nextAvailable name with
    | some t => if t ≤ deadline then { q with now := max q.now t }.pop name
                else (none, { q with now := deadline })
    | none => (none, { q with now := deadline })

/-- Takes a job's reservation away. -/
def unreserve (q : MemoryQueue) (id : String) : Option (QueuedJob × MemoryQueue) :=
  match q.reserved.find? (fun j => j.id == id) with
  | some j => some (j, { q with reserved := q.reserved.filter (fun r => r.id != id) })
  | none => none

/-- Marks a reserved job done. -/
def ack (q : MemoryQueue) (id : String) : Except QueueError MemoryQueue :=
  match q.unreserve id with
  | some (_, q) => .ok q
  | none => .error (.notReserved id)

/-- Keeps the last `n` items of a list. -/
def keepLast {α : Type} (n : Nat) (xs : List α) : List α := xs.drop (xs.length - n)

/-- Hands back a reserved job as failed: the reserved copy, its attempts one
more (wrapping in 32 bits), goes back on its queue after the backoff while
that count is below `maxAttempts`, else it becomes a dead letter. -/
def fail (q : MemoryQueue) (id : String) (error : String) :
    Except QueueError (FailureDisposition × MemoryQueue) :=
  match q.unreserve id with
  | none => .error (.notReserved id)
  | some (job, q) =>
    let job := { job with attempts := job.attempts + 1 }
    if job.attempts < q.maxAttempts then
      .ok (.released job.attempts, q.enqueue job (q.now + q.backoffMs))
    else
      .ok (.deadLettered,
        { q with deadLetters := keepLast q.deadLetterLimit (q.deadLetters ++ [(job, error)]) })

/-- Jobs on a named queue, delayed ones included. -/
def pending (q : MemoryQueue) (name : String) : Nat := (q.entries name).length

/-- Removes and returns the dead letters. -/
def takeDeadLetters (q : MemoryQueue) : List (QueuedJob × String) × MemoryQueue :=
  (q.deadLetters, { q with deadLetters := [] })

end MemoryQueue

end ReportExport
