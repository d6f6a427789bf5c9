import ReportExport.Export.Dispatch

/-!
# Running an export

A run takes a Dispatched record to Completed:

1. the record moves to Processing (any other status refuses the run);
2. the report is rebuilt from the stored descriptor and its filters compiled;
3. the staging directory is made, and rows stream into a CSV file there,
   progress being stored as they go;
4. the file moves onto its disk, and the record moves to Completed.

In chunked mode windows of the chunk size (at least 1) are fetched until a
short or empty one; the cumulative count is stored after each non-empty
window and the total stays unknown. In bulk mode every row is fetched at
once, the total is stored first and then the final count.

A failure after the record moved to Processing marks it Failed with the
error's text, and the staged file is removed, so nothing reaches the output
path. When the completion is refused or fails after the file moved onto its
disk, the file at the record's path on the record's disk is deleted again
(a failure to delete is only noted).
-/

namespace ReportExport

open Config Store Query ExportM

namespace Exporter

/-- A window of rows from a source. -/
def fetchChunk (src : QuerySource) (size offset : Nat) : ExportM (List Row) := do
  let e ← get
  let (s, r) := src.fetchChunk e.store size offset
  set { e with store := s }
  fromExcept (r.mapError .query)

/-- Every row of a source. -/
def fetchAll (src : QuerySource) : ExportM (List Row) := do
  let e ← get
  let (s, r) := src.fetchAll e.store
  set { e with store := s }
  fromExcept (r.mapError .query)

/-- Streams windows of `size` rows from `offset` into the sink until a short or
empty window, storing the count after each non-empty one; `fuel` bounds the
number of windows. -/
def streamChunks (id : Int) (src : QuerySource) (size : Nat) :
    Nat → Nat → CsvSink → ExportM CsvSink
  | 0, _, sink => pure sink
  | fuel + 1, offset, sink => do
    let batch ← fetchChunk src size offset
    if batch.isEmpty then pure sink
    else
      let sink := batch.foldl CsvSink.writeRow sink
      let offset := offset + batch.length
      let _ ← withStore (·.updateProgress id offset none)
      if batch.length < size then pure sink
      else streamChunks id src size fuel offset sink

/-- A bound on the windows a chunked stream fetches, less two: the rows of an
in-memory source; for an SQL source `UInt64.size`, more windows than 64-bit
offsets can count. The stream stops at its first short window or
failure long before. -/
def rowBound (src : QuerySource) : ExportM Nat := do
  match src with
  | .memory q _ => pure q.rows.length
  | .select _ => pure UInt64.size

/-- Streams every row at once, storing the total first and the count last. -/
def streamAll (id : Int) (src : QuerySource) (sink : CsvSink) : ExportM CsvSink := do
  let rows ← fetchAll src
  let total : Int := rows.length
  let _ ← withStore (·.updateProgress id 0 (some total))
  let sink := rows.foldl CsvSink.writeRow sink
  let _ ← withStore (·.updateProgress id total (some total))
  pure sink

/-- A change of the file tree that may fail with a host error. -/
def withFiles {α : Type} (f : FileTree → Except StorageError (FileTree × α)) : ExportM α := do
  let e ← get
  match f e.files with
  | .ok (t, a) => set { e with files := t }; pure a
  | .error err => throw (.storage err)

/-- Makes the staging directory, which a new CSV file needs before any row is
written. -/
def openStaging : ExportM Unit := do
  let e ← get
  match e.files.createDirAll e.staging with
  | .ok t => set { e with files := t }
  | .error err => throw (.io err.message)

/-- The `k`-th name of a staged file. -/
def stagedName (k : Nat) : String := ".tmp" ++ toString k

/-- Writes the CSV text as a new file in the staging directory, under a name
that no entry there has and that lies on the way to none of the paths to
avoid. -/
def stage (avoid : List TreePath) (text : String) : ExportM TreePath := do
  let e ← get
  set { e with issued := e.issued + 1 }
  let written := (e.files.createDirAll e.staging).bind fun t =>
    let path := e.staging ++ [t.freshName e.staging stagedName avoid (e.issued + 1)]
    (t.writeFile path text).map (·, path)
  match written with
  | .ok (t, path) => modify fun e => { e with files := t }; pure path
  | .error err => throw (.io err.message)

/-- Moves a staged file onto a disk, making the directory first when it is
missing; the staged file never outlives the move. -/
def publish (disk : FilesystemDisk) (desc : ReportDescriptor) (staged : TreePath) : ExportM Unit := do
  let shared := (← get).stagingShared
  let moved ← attempt do
    let present ← withFiles fun t => (disk.exists? t desc.directory).map (t, ·)
    unless present do withFiles fun t => (disk.makeDirectory t desc.directory).map (·, ())
    withFiles fun t => (disk.putFile t desc.outputPath staged shared).map (·, ())
  modify fun e => { e with files := e.files.erase staged }
  fromExcept moved

/-- Writes the record's export to its disk; the number of rows written. -/
def execute (record : ExportRecord) : ExportM Nat := do
  let e ← get
  let desc ← fromExcept (storedDescriptor record)
  let definition ← fromExcept ((e.registry.reconstruct desc).mapError .report)
  let src ← fromExcept (definition.buildQuery.mapError .report)
  let disk ← fromExcept ((e.storage.disk desc.disk).mapError .storage)
  openStaging
  let sink := CsvSink.create definition.headers
  let sink ← match desc.mode with
    | .chunked => do streamChunks record.id src (max desc.chunkSize 1) ((← rowBound src) + 2) 0 sink
    | .bulk => streamAll record.id src sink
  -- the staged file must not stand in the way of the file it becomes
  let staged ← stage (disk.filePath desc.outputPath).toOption.toList sink.text
  publish disk desc staged
  pure sink.rows

/-- Completes a record as the running side sees it. -/
def complete (id : Int) : ExportM Bool := do
  match (← get).completionFault with
  | none => withStore (·.markCompleted id)
  | some .refused =>
    let _ ← withStore (·.markFailed id "cancelled")
    withStore (·.markCompleted id)
  | some (.failed message) => throw (.data (.io message))

/-- Marks a record Failed with a message; a failure to do so is only noted. -/
def recordFailure (id : Int) (message : String) : ExportM Unit := do
  let _ ← attempt (withStore (·.markFailed id message))

/-- Deletes the file at a record's path on its disk; a failure is only noted. -/
def discardArtifact (record : ExportRecord) : ExportM Unit := do
  let e ← get
  match e.storage.disk record.disk >>= fun d => d.delete e.files record.path with
  | .ok t => set { e with files := t }
  | .error _ => pure ()

/-- The current status of a record. -/
def currentStatus (id : Int) : ExportM ExportStatus := do
  pure (← find id).status

/-- The rest of a run once the start of its record is granted: the export,
then the completion; a failure of either is recorded on the record. -/
def runStarted (id : Int) (record : ExportRecord) : ExportM ExportRecord := do
  match ← attempt (execute record) with
  | .error err =>
    recordFailure id err.message
    throw err
  | .ok _ =>
    let completed ← attempt (complete id)
    match completed with
    | .ok true => find id
    | .ok false =>
      discardArtifact record
      throw (.invalidTransition id (← currentStatus id) .completed)
    | .error err =>
      discardArtifact record
      recordFailure id err.message
      throw err

/-- Runs a record to completion; the finished record. -/
def run (id : Int) : ExportM ExportRecord := do
  let record ← find id
  unless ← withStore (·.markProcessing id) do
    throw (.invalidTransition id record.status .processing)
  runStarted id record

end Exporter

end ReportExport
