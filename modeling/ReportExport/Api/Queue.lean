import ReportExport.Api.Basic
import ReportExport.Queue.Memory

/-!
# The JSON command interface: the in-memory queue

A queue is built from the request's settings and driven step by step; each
step's entry carries the number of reserved jobs and the dead letters.
-/

namespace ReportExport.Api

/-- The view of a job. -/
def jobView (j : QueuedJob) : Json :=
  .obj [("id", .str j.id), ("queue", .str j.queue), ("payload", j.payload),
        ("attempts", .nat j.attempts.toNat)]

/-- The view of dead letters. -/
def deadLettersView (letters : List (QueuedJob × String)) : Json :=
  .arr (letters.map (fun (j, e) => .obj [("job", jobView j), ("error", .str e)]))

/-- The answer for a queue error. -/
def QueueError.answer (e : QueueError) : Json :=
  failure ("QueueError." ++ e.variantName) e.message

/-- The view of a failure disposition. -/
def dispositionView : FailureDisposition → Json
  | .released n => .obj [("released", .nat n.toNat)]
  | .deadLettered => .str "dead_lettered"

/-- The queue a request names, `default` when it names none. -/
def queueName (step : Json) : Except String String := do
  return (← strOpt step "queue").getD "default"

/-- One step on a queue: the answer and the queue after it. -/
def queueStep (q : MemoryQueue) (step : Json) : Except String (Json × MemoryQueue) := do
  match ← stepName step with
  | "push" =>
    let id ← str step "id"
    let queue ← queueName step
    let attempts := ((← natOpt step "attempts").getD 0).toUInt32
    return (ok .null, q.push { id, queue, payload := (step.get? "payload").getD .null, attempts })
  | "pop" =>
    let (job, q) := q.pop (← queueName step)
    return (ok (Json.opt jobView job), q)
  | "wait" =>
    let (job, q) := q.wait (← queueName step) ((← natOpt step "timeout_ms").getD 0)
    return (ok (Json.opt jobView job), q)
  | "ack" =>
    match q.ack (← str step "id") with
    | .ok q => return (ok .null, q)
    | .error e => return (QueueError.answer e, q)
  | "fail" =>
    match q.fail (← str step "id") ((← strOpt step "error").getD "") with
    | .ok (d, q) => return (ok (dispositionView d), q)
    | .error e => return (QueueError.answer e, q)
  | "pending" => return (ok (.nat (q.pending (← queueName step))), q)
  | "take_dead_letters" =>
    let (letters, q) := q.takeDeadLetters
    return (ok (deadLettersView letters), q)
  | "info" =>
    return (ok (.obj [("backend", .str MemoryQueue.backendName), ("connection", .str q.connection)]), q)
  | other => unknownStep other

/-- Runs the steps in order; a failed step leaves the queue unchanged. -/
def queueSteps : MemoryQueue → List Json → List Json
  | _, [] => []
  | q, step :: rest =>
    let (entry, q) := match queueStep q step with
      | .ok r => r
      | .error m => (failure "bad_input" m, q)
    withSnapshot entry [("reserved", .nat q.reserved.length),
      ("dead_letters", deadLettersView q.deadLetters)] :: queueSteps q rest

/-- `queue`: builds a queue and runs steps on it. -/
def queueOp (req : Json) : Handler := do
  let base ←
    if flag req "default" then pure (MemoryQueue.create 1 0)
    else do
      let q := MemoryQueue.create ((← natOpt req "max_attempts").getD 1).toUInt32
        ((← natOpt req "backoff_secs").getD 0)
      match ← strOpt req "connection" with
      | some c => pure { q with connection := c }
      | none => pure q
  let q := match req.get? "dead_letter_limit" with
    | some (.num (.int n)) => { base with deadLetterLimit := n.toNat }
    | _ => base
  return ok (.arr (queueSteps q ((← arrOpt req "steps").getD [])))

end ReportExport.Api
