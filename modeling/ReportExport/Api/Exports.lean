import ReportExport.Api.Records
import ReportExport.Api.Queue
import ReportExport.Api.Collections
import ReportExport.Api.Queries
import ReportExport.Api.Disk
import ReportExport.Api.Reports
import ReportExport.Export.Work

/-!
# The JSON command interface: the export pipeline

The whole pipeline over one fresh record store, an in-memory queue and disks
under a common directory, driven step by step: definitions are dispatched,
described and run, the queue is worked, records are looked up and the disks
listed. Each step's entry carries the listed records, the queue's pending,
reserved and dead jobs, and the number of files left in staging.
-/

namespace ReportExport.Api

open Config Store Query ExportM

/-- The answer for a report error. -/
def ReportError.answer (e : ReportError) : Json :=
  failure ("ReportError." ++ e.variantPath) e.message

/-- The answer for an export error. -/
def ExportError.answer (e : ExportError) : Json :=
  failure ("ExportError." ++ e.variantPath) e.message

/-- The view of a job's outcome. -/
def outcomeView : JobOutcome → Json
  | .completed r => .obj [("outcome", .str "completed"), ("record", recordView r)]
  | .failed exportId error disposition =>
    .obj [("outcome", .str "failed"), ("export_id", Json.opt Json.int exportId),
      ("error", .str error), ("disposition", dispositionView disposition)]

/-- A header map as `[column, label]` pairs. -/
def headerPairsView (h : HeaderMap) : Json :=
  .arr (h.entries.map fun (c, l) => .arr [.str c, .str l])

/-- Builds a definition from a step's report and choices; the inner result
is the answer of a report or filter that cannot be built. -/
def definitionOf (s : FilterSettings) (registry : ReportRegistry) (step : Json) :
    Except String (Except Json ReportDefinition) := do
  let report := (step.get? "report").getD .null
  let kind ← str report "kind"
  match registry.create kind ((report.get? "args").getD .null) with
  | .error e => return .error (ReportError.answer e)
  | .ok r =>
    let filters ← match step.get? "filters" with
      | none | some .null => pure (.ok {})
      | some src => readSource s src
    match filters with
    | .error e => return .error (FilterError.answer e)
    | .ok filters =>
      match decodeFilters ((← arrOpt step "add_filters").getD []) with
      | .error m => return .error (decodeFailure m)
      | .ok added =>
        let mode ← match ← strOpt step "mode" with
          | some "bulk" => pure StreamMode.bulk
          | some "chunked" | none => pure StreamMode.chunked
          | some other => throw ("unknown mode '" ++ other ++ "'")
        return .ok
          { report := r, filters := filters.addMany added, disk := ← strOpt step "disk",
            directory := ← strOpt step "path", filename := ← strOpt step "filename", mode,
            chunkSize := ← natOpt step "chunk_size" }

/-- The description of a definition: what it freezes into and what it
compiles to, without dispatching it. -/
def describeView (e : Exporter) (d : ReportDefinition) : Json :=
  let desc := d.descriptor e.exportSettings
  let restored := match e.registry.reconstruct desc with
    | .ok r => r.descriptor e.exportSettings == desc
    | .error _ => false
  .obj [("descriptor", desc.toJson), ("output_path", .str (d.outputPath e.exportSettings)),
    ("chunk_size", .nat (d.chunkSizeIn e.exportSettings)), ("headers", headerPairsView d.headers),
    ("compiled", match d.buildQuery with
      | .ok q => compiledQueryView q.compiled
      | .error err => ReportError.answer err),
    ("restored_equal", .bool restored)]

/-- The answer of a pipeline action whose value has a view, and the state
after it. -/
def runAction {α : Type} (e : Exporter) (m : ExportM α) (view : α → Json) : Json × Exporter :=
  match m.exec e with
  | (.ok a, e) => (ok (view a), e)
  | (.error err, e) => (ExportError.answer err, e)

/-- The view of the dead letters: each job's id, attempts and last error. -/
def deadLetterIds (letters : List (QueuedJob × String)) : Json :=
  .arr (letters.map fun (j, err) =>
    .obj [("job", .str j.id), ("attempts", .nat j.attempts.toNat), ("error", .str err)])

/-- The snapshot after a step. -/
def exporterSnapshot (e : Exporter) : List (String × Json) :=
  [("records", recordsView e.store), ("pending", .nat (e.queue.pending e.queueSettings.name)),
   ("reserved", .nat e.queue.reserved.length), ("dead_letters", deadLetterIds e.queue.deadLetters),
   ("staged", .nat e.stagedCount)]

/-- One pipeline step: the answer and the state after it. -/
def exportStep (s : FilterSettings) (e : Exporter) (step : Json) :
    Except String (Json × Exporter) := do
  let name ← stepName step
  let withDefinition (f : ReportDefinition → Json × Exporter) : Except String (Json × Exporter) := do
    match ← definitionOf s e.registry step with
    | .error answer => return (answer, e)
    | .ok d => return f d
  let records (rs : List ExportRecord) : Json := .arr (rs.map recordView)
  match name with
  | "dispatch" => withDefinition fun d => runAction e (Exporter.dispatch d) recordView
  | "describe" => withDefinition fun d => (ok (describeView e d), e)
  | "debug_definition" => withDefinition fun d => (ok (.str d.debugText), e)
  | "run" => return runAction e (Exporter.run (← int step "id")) recordView
  | "drain" => return runAction e Exporter.drain fun os => .arr (os.map outcomeView)
  | "run_next" => return runAction e (Exporter.runNext 0) (Json.opt outcomeView)
  | "retry" => return runAction e (Exporter.retry (← int step "id")) recordView
  | "find" => return runAction e (Exporter.find (← int step "id")) recordView
  | "retries" => return runAction e (Exporter.retries (← int step "id")) records
  | "retried_from" =>
    let id ← int step "id"
    return runAction e (do Exporter.retriedFrom (← Exporter.find id)) (Json.opt recordView)
  | "list" =>
    let token ← str step "status"
    match ExportStatus.ofToken? token with
    | some st => return runAction e (Exporter.list st) records
    | none => return (failure "UnknownStatus" (ExportStatus.unknownMessage token), e)
  | "recover" => return runAction e Exporter.recoverDispatched Json.nat
  | "push_job" =>
    let queue := (← strOpt step "queue").getD e.queueSettings.name
    let payload := (step.get? "payload").getD .null
    return runAction e (do
      let id ← freshJobId
      withQueue (·.push { id, queue, payload })) (fun _ => .null)
  | "pop_job" =>
    let queue := (← strOpt step "queue").getD e.queueSettings.name
    let (job, q) := e.queue.pop queue
    return (ok (Json.opt jobView job), { e with queue := q })
  | "files" => return (ok (listingView e.listing), e)
  | "exec_sql" =>
    match e.store.execute (← str step "sql") [] with
    | (store, .ok n) => return (ok (.nat n), { e with store })
    | (store, .error err) => return (failure "bad_input" ("exec_sql failed: " ++ err.message), { e with store })
  | "debug_services" =>
    return (ok (.obj [("registry", .str e.registry.debugText), ("storage", .str e.storage.debugText)]), e)
  | "worker_run" =>
    let dropSender := flag step "drop_sender"
    return runAction e (Exporter.workUntilIdle 0) fun n =>
      .obj [("processed", .nat n), ("triggered_before", .bool false),
        ("triggered_after", .bool !dropSender)]
  | other =>
    match ← recordStep e.store other step with
    | some (answer, store) => return (answer, { e with store })
    | none => unknownStep other

/-- Runs pipeline steps in order; each entry carries the snapshot. -/
def exportSteps (s : FilterSettings) : Exporter → List Json → List Json × Exporter
  | e, [] => ([], e)
  | e, step :: rest =>
    let (entry, e) := match exportStep s e step with
      | .ok r => r
      | .error m => (failure "bad_input" m, e)
    let (entries, final) := exportSteps s e rest
    (withSnapshot entry (exporterSnapshot e) :: entries, final)

/-- The pipeline a request sets up. -/
def exporterOf (req : Json) (store : RecordStore) : Except String Exporter := do
  let es := (req.get? "export_settings").getD (.obj [])
  let qs := (req.get? "queue_settings").getD (.obj [])
  let diskNames := ((← arrOpt req "disks").getD [.str "local"]).filterMap Json.str?
  let home : TreePath := ["disks"]
  let shm := (← strOpt req "staging") == some "shm"
  let queueName := (← strOpt qs "name").getD "default"
  let maxAttempts := (← natOpt qs "max_attempts").getD 1
  let completionFault ← match ← strOpt req "completion" with
    | some "refuse" => pure (some CompletionFault.refused)
    | some "error" => pure (some (CompletionFault.failed "disk full"))
    | none => pure none
    | some other => throw ("unknown completion '" ++ other ++ "'")
  return {
    store
    queue := { MemoryQueue.create maxAttempts.toUInt32 0 with
               connection := (← strOpt req "queue_connection").getD "memory" }
    storage := diskNames.foldl (fun m n => m.register { name := n, root := home ++ [n] }) {}
    disksHome := home
    staging := if shm then ["shm", "staging"] else ["staging"]
    stagingShared := !shm
    registry := { kinds := ["table", "rows", "broken", "plain"] }
    exportSettings := { chunkSize := (← natOpt es "chunk_size").getD 1000,
                        disk := (← strOpt es "disk").getD "local",
                        directory := (← strOpt es "directory").getD "reports",
                        tempDir := some "staging" }
    queueSettings := { name := queueName, connection := ← strOpt qs "connection",
                       maxAttempts, backoffSecs := 0 }
    completionFault
    cancelOnCreate := (← strOpt req "service_repo") == some "cancel_on_create" }

/-- Runs setup statements on a store, stopping at the first failure. -/
def runSetup (store : RecordStore) : List Json → Except String RecordStore
  | [] => .ok store
  | .str sql :: rest =>
    match store.execute sql [] with
    | (store, .ok _) => runSetup store rest
    | (_, .error err) => .error ("setup_sql failed: " ++ err.message)
  | _ :: _ => .error "setup_sql entries must be strings"

/-- `export`: steps on a fresh pipeline; the entries and the final listing. -/
def exportOp (req : Json) : Handler := do
  match RecordStore.fresh with
  | (_, .error err) => return failure "SqliteError" err.serviceMessage
  | (store, .ok ()) =>
    let store ← runSetup store ((← arrOpt req "setup_sql").getD [])
    let e ← exporterOf req store
    let (entries, e) := exportSteps (settingsOf req) e ((← arrOpt req "steps").getD [])
    return ok (.obj [("steps", .arr entries), ("files", listingView e.listing)])

end ReportExport.Api

namespace ReportExport.Api

open Config

/-- `table_args`: a `table` report built from its parts, as a report and as a
definition with the default export settings. -/
def tableArgsOp (req : Json) : Handler := do
  let headers := HeaderMap.ofPairs (← headerPairs ((← arrOpt req "headers").getD []))
  let filterable ← match ← arrOpt req "filterable" with
    | some cs => pure (some (cs.filterMap Json.str?))
    | none => pure none
  let args : TableArgs :=
    { sql := ← str req "sql", filename := ← str req "filename", orderBy := ← strOpt req "order_by",
      headers, filterable }
  let report := Report.table args
  let filters ← match req.get? "filters" with
    | none | some .null => pure (.ok {})
    | some src => readSource (settingsOf req) src
  match filters with
  | .error e => return FilterError.answer e
  | .ok filters =>
    let d : ReportDefinition := { report, filters }
    let settings : ExportSettings := {}
    return ok (.obj [("serialized", args.toJson),
      ("report", .obj [("kind", .str report.kind), ("filename", .str report.filename),
        ("headers", headerPairsView report.headers), ("chunk_size", Json.opt Json.nat report.chunkSize),
        ("arguments", report.arguments)]),
      ("definition", .obj [("kind", .str report.kind), ("filters", .nat d.filters.size),
        ("mode", .str d.mode.token), ("filename", .str d.fileName),
        ("descriptor", (d.descriptor settings).toJson),
        ("compiled", match d.buildQuery with
          | .ok q => compiledQueryView q.compiled
          | .error err => ReportError.answer err)])])

end ReportExport.Api
