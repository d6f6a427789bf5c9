import ReportExport.App.Workspace
import ReportExport.App.Error
import ReportExport.Export.Work
import ReportExport.Store.Migration
import ReportExport.Decimal.Fixed
import ReportExport.Json.Print

/-!
# The application

The application wires the export pipeline from resolved settings, in a
workspace and from a working directory:

* the record database is the file at the settings' path, opened with its
  parent directories made, and migrated;
* the report kinds are the given ones, with `table` added;
* every configured disk is a directory of the workspace;
* the queue is a fresh in-memory queue following the queue settings, on the
  configured connection or `memory`;
* files are staged in the configured temporary directory, or in the
  workspace's directory for temporary files.

Its commands print what they did:

* `work` re-queues the dispatched records, then drains the queue and prints
  a line per job and a summary;
* `status` prints a record as indented JSON and its progress;
* `retry` dispatches a failed record again, says so, and works like `work`
  without the re-queueing;
* `watch` re-queues the dispatched records and works the queue until it
  stays idle, then shuts down; it prints nothing.

A command that fails keeps what it printed before the failure. The pipeline's
files, database and issued ids live in the workspace: every command reads
them from it and writes them back, so several applications on one workspace
see each other's work.
-/

namespace ReportExport

open Config Store ExportM

/-- A running application. -/
structure CoreApp where
  settings : Settings
  /-- Where the record database lives. -/
  databasePath : TreePath
  exporter : Exporter
  /-- Whether the application was asked to shut down. -/
  shutdown : Bool := false
  deriving Inhabited

/-- What a command printed, and whether it succeeded. -/
structure Transcript where
  output : String := ""
  result : Except AppError Unit := .ok ()
  deriving Inhabited

/-- Whether a job completed. -/
def JobOutcome.isCompleted : JobOutcome → Bool
  | .completed _ => true
  | .failed _ _ _ => false

namespace CoreApp

/-- The disks of the settings, each rooted at its directory resolved from the
working directory. -/
def storageOf (cwd : TreePath) (s : StorageSettings) : StorageManager :=
  s.disks.foldl (fun m (name, d) => m.register { name, root := Workspace.resolve cwd d.root }) {}

/-- The pipeline the settings describe, over a migrated store. -/
def exporterOf (s : Settings) (kinds : List String) (cwd : TreePath) (store : RecordStore)
    (w : Workspace) : Exporter :=
  { store
    queue := { MemoryQueue.create s.queue.maxAttempts.toUInt32 s.queue.backoffSecs with
               connection := s.queue.connection.getD "memory" }
    files := w.files
    storage := storageOf cwd s.storage
    disksHome := cwd
    staging := match s.exports.tempDir with
      | some d => Workspace.resolve cwd d
      | none => w.scratch
    registry := { kinds := if kinds.contains "table" then kinds else kinds ++ ["table"] }
    exportSettings := s.exports
    queueSettings := s.queue
    issued := w.issued }

/-- Builds the application: opens and migrates the database, then wires the
pipeline. The workspace keeps the database file even when the migration
fails. -/
def build (s : Settings) (kinds : List String) (cwd : TreePath) (w : Workspace) :
    Workspace × Except AppError CoreApp :=
  let path := Workspace.resolve cwd s.database.path
  let failed (cause : StoreError) : AppError := .openDatabase s.database.path cause
  match w.openDatabase path with
  | .error (.io e) => (w, .error (failed (.io e.message)))
  | .error (.engine e) => (w, .error (failed (.driver (.database e))))
  | .ok (w, db) =>
    let (store, migrated) := ({ conn := { db }, clock := w.clock } : RecordStore).migrate
    let w := w.storeDatabase path store.conn.db
    match migrated with
    | .error e => (w, .error (failed e))
    | .ok () => (w, .ok { settings := s, databasePath := path, exporter := exporterOf s kinds cwd store w })

/-- The store as the application sees it in a workspace. -/
def storeIn (app : CoreApp) (w : Workspace) : RecordStore :=
  let store := app.exporter.store
  if store.closed then store
  else { store with conn := { store.conn with db := (w.database? app.databasePath).getD {} } }

/-- Runs a pipeline action on the workspace's files, database and ids, and
writes them back; a closed database is neither read nor written. -/
def act {α : Type} (app : CoreApp) (w : Workspace) (m : ExportM α) :
    Except ExportError α × CoreApp × Workspace :=
  let (r, e) := m.exec { app.exporter with store := app.storeIn w, files := w.files, issued := w.issued }
  let w := { w with files := e.files, issued := e.issued }
  let w := if e.store.closed then w else w.storeDatabase app.databasePath e.store.conn.db
  (r, { app with exporter := e }, w)

/-- The line printed for a job's outcome. -/
def outcomeLine : JobOutcome → String
  | .completed r =>
    "Export " ++ toString r.id ++ " completed: " ++ r.disk ++ "/" ++ r.path ++ " (" ++
      toString r.rowsProcessed ++ " rows)"
  | .failed (some id) error _ => "Export " ++ toString id ++ " failed: " ++ error
  | .failed none error _ => "Job failed: " ++ error

/-- The lines printed after working the queue: one per job, then the counts. -/
def summary (outcomes : List JobOutcome) : String :=
  let completed := (outcomes.filter JobOutcome.isCompleted).length
  String.join (outcomes.map (outcomeLine · ++ "\n")) ++
    "Processed " ++ toString outcomes.length ++ " job(s): " ++ toString completed ++
    " completed, " ++ toString (outcomes.length - completed) ++ " failed\n"

/-- A record as the JSON document `status` prints. -/
def recordDocument (r : ExportRecord) : Json :=
  .obj [("id", .int r.id), ("report_kind", .str r.reportKind), ("query_sql", .str r.querySql),
    ("query_bindings", .arr r.queryBindings), ("status", .str r.status.token),
    ("rows_processed", .int r.rowsProcessed), ("total_rows", Json.opt Json.int r.totalRows),
    ("started_at", Json.opt Json.int r.startedAt), ("completed_at", Json.opt Json.int r.completedAt),
    ("failed_at", Json.opt Json.int r.failedAt), ("error_message", Json.opt Json.str r.errorMessage),
    ("retried_from_id", Json.opt Json.int r.retriedFromId), ("disk", .str r.disk),
    ("path", .str r.path), ("queue", .str r.queue), ("connection", Json.opt Json.str r.connection),
    ("job_id", Json.opt Json.str r.jobId), ("created_at", .int r.createdAt),
    ("updated_at", .int r.updatedAt)]

/-- The progress line of a record: the percentage with two decimals when the
total is known, the rows processed otherwise. -/
def progressLine (r : ExportRecord) : String :=
  match r.progressPercentage with
  | some p => r.status.label ++ ": " ++ Decimal.fixed p 2 ++ "%"
  | none => r.status.label ++ ": " ++ toString r.rowsProcessed ++ " rows"

/-- What `status` prints for a record. -/
def statusText (r : ExportRecord) : String :=
  Json.pretty 0 (recordDocument r) ++ "\n" ++ progressLine r ++ "\n"

/-- A command's transcript from a pipeline action's result and what it
printed before. -/
def transcript (printed : String) : Except ExportError String → Transcript
  | .ok text => { output := printed ++ text }
  | .error e => { output := printed, result := .error (.export e) }

/-- Re-queues the dispatched records, then drains the queue. -/
def work (app : CoreApp) (w : Workspace) : Transcript × CoreApp × Workspace :=
  let (r, app, w) := app.act w do
    let _ ← Exporter.recoverDispatched
    pure (summary (← Exporter.drain))
  (transcript "" r, app, w)

/-- Prints a record. -/
def status (app : CoreApp) (w : Workspace) (id : Int) : Transcript × CoreApp × Workspace :=
  let (r, app, w) := app.act w (Exporter.find id)
  (transcript "" (r.map statusText), app, w)

/-- Retries a failed record, then drains the queue. -/
def retry (app : CoreApp) (w : Workspace) (id : Int) : Transcript × CoreApp × Workspace :=
  match app.act w (Exporter.retry id) with
  | (.error e, app, w) => (transcript "" (.error e), app, w)
  | (.ok record, app, w) =>
    let queued := "Export " ++ toString record.id ++ " queued as a retry of " ++ toString id ++ "\n"
    let (r, app, w) := app.act w Exporter.drain
    (transcript queued (r.map summary), app, w)

/-- How long the watching worker waits for a job before it counts as idle:
longer than any back-off of a failed job. -/
def idleWaitMs (app : CoreApp) : Nat := (app.settings.queue.backoffSecs + 1) * 1000

/-- Re-queues the dispatched records and works the queue until it stays idle,
then shuts down. Failures of single jobs do not stop the worker. -/
def watch (app : CoreApp) (w : Workspace) : Transcript × CoreApp × Workspace :=
  match app.act w Exporter.recoverDispatched with
  | (.error e, app, w) => (transcript "" (.error e), app, w)
  | (.ok _, app, w) =>
    let (_, app, w) := app.act w (Exporter.workUntilIdle app.idleWaitMs)
    ({}, { app with shutdown := true }, w)

/-- Checkpoints the database's log; refused once the database is closed. -/
def checkpoint (app : CoreApp) : Except StoreError Unit :=
  if app.exporter.store.closed then .error (.driver .poolClosed) else .ok ()

/-- Closes the database: every later request to it is refused. -/
def close (app : CoreApp) : CoreApp :=
  { app with exporter := { app.exporter with store := { app.exporter.store with closed := true } } }

end CoreApp

end ReportExport
