import ReportExport.Filter.Collection

/-!
# Settings

The resolved settings of the service: the queue export jobs go onto, the
export defaults a report may leave unset, the filter settings, the named
storage disks and the record database. Each part has its default; the
defaults are what an empty configuration resolves to.
-/

namespace ReportExport.Config

/-- The queue export jobs are pushed onto. -/
structure QueueSettings where
  name : String := "default"
  /-- The queue connection recorded on each job. -/
  connection : Option String := none
  maxAttempts : Nat := 1
  backoffSecs : Nat := 0
  deriving Repr, DecidableEq, Inhabited

/-- Export defaults for reports that leave them unset. -/
structure ExportSettings where
  chunkSize : Nat := 1000
  disk : String := "local"
  directory : String := "reports"
  /-- Where files are staged before they move to their disk. -/
  tempDir : Option String := none
  deriving Repr, DecidableEq, Inhabited

/-- How a disk stores files; files on the local file system is the only kind. -/
inductive DiskDriver where
  | filesystem
  deriving Repr, DecidableEq, Inhabited

/-- The token of a driver. -/
def DiskDriver.token : DiskDriver → String
  | .filesystem => "filesystem"

/-- One storage disk: its driver and root directory. -/
structure DiskSettings where
  driver : DiskDriver := .filesystem
  root : String
  deriving Repr, DecidableEq, Inhabited

/-- The named disks, ordered by name, one entry per name. -/
structure StorageSettings where
  disks : List (String × DiskSettings) := [("local", { root := "storage" })]
  deriving Repr, DecidableEq, Inhabited

/-- Orders disks by name and keeps the last entry of each name. -/
def StorageSettings.ofEntries (entries : List (String × DiskSettings)) : StorageSettings :=
  let last := entries.foldl (fun acc (n, d) => (n, d) :: acc.filter (fun e => e.1 != n)) []
  { disks := last.mergeSort (fun a b => !(b.1 < a.1)) }

/-- Whether a disk of that name exists. -/
def StorageSettings.has (s : StorageSettings) (name : String) : Bool :=
  s.disks.any (fun e => e.1 == name)

/-- The disk of a name. -/
def StorageSettings.find? (s : StorageSettings) (name : String) : Option DiskSettings :=
  (s.disks.find? (fun e => e.1 == name)).map Prod.snd

/-- Where the export records are kept. -/
structure DatabaseSettings where
  path : String := "reportable.db"
  deriving Repr, DecidableEq, Inhabited

/-- The whole resolved configuration. -/
structure Settings where
  queue : QueueSettings := {}
  exports : ExportSettings := {}
  filters : FilterSettings := {}
  storage : StorageSettings := {}
  database : DatabaseSettings := {}
  deriving Repr, DecidableEq, Inhabited

/-- The first rule the settings break, as its message. The queue must have a
name and allow at least one attempt, chunks must hold rows, the filter group
must have a name, and the export disk must be one of the disks. -/
def Settings.violation? (s : Settings) : Option String :=
  if s.queue.name.isEmpty then some "Configuration error: queue.name must not be empty"
  else if s.queue.maxAttempts = 0 then
    some "Configuration error: queue.max_attempts must be at least 1"
  else if s.exports.chunkSize = 0 then
    some "Configuration error: export.chunk_size must be greater than 0"
  else if s.filters.defaultGroup.isEmpty then
    some "Configuration error: filters.default_group must not be empty"
  else if !s.storage.has s.exports.disk then
    some ("Configuration error: export.disk '" ++ s.exports.disk ++
      "' is not defined in storage.disks")
  else none

end ReportExport.Config
