import ReportExport.Config.Settings
import ReportExport.Json.Decode

/-!
# Configuration files and overrides

A configuration file is a JSON object with optional sections `queue`,
`export`, `filters`, `storage` and `database`; other top-level keys are kept
aside as unknown (likely typos). Command-line values override the file, and
the file overrides the defaults. Configured disks replace the default disk
altogether. The result must then pass `Settings.violation?`.
-/

namespace ReportExport.Config

/-- The `queue` section of a file. -/
structure QueueSection where
  name : Option String := none
  connection : Option String := none
  maxAttempts : Option Nat := none
  backoffSecs : Option Nat := none
  deriving Repr, DecidableEq, Inhabited

/-- The `export` section of a file. -/
structure ExportSection where
  chunkSize : Option Nat := none
  disk : Option String := none
  directory : Option String := none
  tempDir : Option String := none
  deriving Repr, DecidableEq, Inhabited

/-- A configuration file's contents; absent sections hold no values. -/
structure FileConfig where
  queue : QueueSection := {}
  exports : ExportSection := {}
  defaultGroup : Option String := none
  disks : Option (List (String × DiskSettings)) := none
  databasePath : Option String := none
  /-- Top-level keys that name no section, with their values. -/
  unknown : List (String × Json) := []
  deriving Inhabited

/-- Values given on the command line. -/
structure Overrides where
  configPath : Option String := none
  db : Option String := none
  queue : Option String := none
  connection : Option String := none
  chunkSize : Option Nat := none
  deriving Repr, DecidableEq, Inhabited

/-- Decodes a section: from an object by field names, or from an array with
every field in place; `fields` reads the values in declaration order. -/
def decodeSection {α : Type} (name : String) (rules : List FieldRule)
    (fromFields : Fields → Decoded α) (fromItems : Items → Decoded α) (j : Json) : Decoded α :=
  match j with
  | .obj ms => do
    let fs : Fields := ⟨ms⟩
    fs.check rules
    fromFields fs
  | .arr items =>
    let count := rules.length
    fromItems ⟨items, "struct " ++ name ++ " with " ++ toString count ++
      (if count = 1 then " element" else " elements")⟩
  | _ => j.invalidType ("struct " ++ name)

/-- Decodes the `queue` section. -/
def decodeQueue : Json → Decoded QueueSection :=
  let str := Json.asOption Json.asString
  decodeSection "QueueFileConfig"
    [.of "name" str, .of "connection" str, .of "max_attempts" (Json.asOption Json.asU32),
     .of "backoff_secs" (Json.asOption Json.asU64)]
    (fun fs => do
      pure { name := ← fs.optional "name" Json.asString,
             connection := ← fs.optional "connection" Json.asString,
             maxAttempts := ← fs.optional "max_attempts" Json.asU32,
             backoffSecs := ← fs.optional "backoff_secs" Json.asU64 })
    (fun it => do
      let name ← it.required 0 str
      let connection ← it.required 1 str
      let maxAttempts ← it.required 2 (Json.asOption Json.asU32)
      let backoffSecs ← it.required 3 (Json.asOption Json.asU64)
      it.noneBeyond 4
      pure { name, connection, maxAttempts, backoffSecs })

/-- Decodes the `export` section. -/
def decodeExport : Json → Decoded ExportSection :=
  let str := Json.asOption Json.asString
  decodeSection "ExportFileConfig"
    [.of "chunk_size" (Json.asOption Json.asUsize), .of "disk" str, .of "directory" str,
     .of "temp_dir" (Json.asOption Json.asPath)]
    (fun fs => do
      pure { chunkSize := ← fs.optional "chunk_size" Json.asUsize,
             disk := ← fs.optional "disk" Json.asString,
             directory := ← fs.optional "directory" Json.asString,
             tempDir := ← fs.optional "temp_dir" Json.asPath })
    (fun it => do
      let chunkSize ← it.required 0 (Json.asOption Json.asUsize)
      let disk ← it.required 1 str
      let directory ← it.required 2 str
      let tempDir ← it.required 3 (Json.asOption Json.asPath)
      it.noneBeyond 4
      pure { chunkSize, disk, directory, tempDir })

/-- Decodes the `filters` section to its default group. -/
def decodeFilters : Json → Decoded (Option String) :=
  let str := Json.asOption Json.asString
  decodeSection "FiltersFileConfig" [.of "default_group" str]
    (fun fs => fs.optional "default_group" Json.asString)
    (fun it => do
      let g ← it.required 0 str
      it.noneBeyond 1
      pure g)

/-- Decodes a disk's settings. -/
def decodeDisk : Json → Decoded DiskSettings :=
  let driver := Json.asVariant [("filesystem", DiskDriver.filesystem)]
  decodeSection "DiskSettings" [.of "driver" driver, .of "root" Json.asPath]
    (fun fs => do
      let driver ← fs.withDefault "driver" .filesystem driver
      let root ← fs.required "root" Json.asPath
      pure { driver, root })
    (fun it => do
      let driver ← it.withDefault 0 .filesystem driver
      let root ← it.required 1 Json.asPath
      it.noneBeyond 2
      pure { driver, root })

/-- Decodes the `storage` section to its disks. -/
def decodeStorage : Json → Decoded (Option (List (String × DiskSettings))) :=
  let disks := Json.asOption (Json.asMap decodeDisk)
  decodeSection "StorageFileConfig" [.of "disks" disks]
    (fun fs => fs.optional "disks" (Json.asMap decodeDisk))
    (fun it => do
      let d ← it.required 0 disks
      it.noneBeyond 1
      pure d)

/-- Decodes the `database` section to its path. -/
def decodeDatabase : Json → Decoded (Option String) :=
  let path := Json.asOption Json.asPath
  decodeSection "DatabaseFileConfig" [.of "path" path]
    (fun fs => fs.optional "path" Json.asPath)
    (fun it => do
      let p ← it.required 0 path
      it.noneBeyond 1
      pure p)

/-- The names of the sections. -/
def sectionNames : List String := ["queue", "export", "filters", "storage", "database"]

/-- Decodes a configuration file. Only an object is a configuration. -/
def FileConfig.decode (j : Json) : Decoded FileConfig :=
  match j with
  | .obj ms => do
    let fs : Fields := ⟨ms⟩
    fs.check [.of "queue" (Json.asOption decodeQueue), .of "export" (Json.asOption decodeExport),
      .of "filters" (Json.asOption decodeFilters), .of "storage" (Json.asOption decodeStorage),
      .of "database" (Json.asOption decodeDatabase)]
    let queue ← fs.optional "queue" decodeQueue
    let exports ← fs.optional "export" decodeExport
    let defaultGroup ← fs.optional "filters" decodeFilters
    let disks ← fs.optional "storage" decodeStorage
    let databasePath ← fs.optional "database" decodeDatabase
    pure { queue := queue.getD {}, exports := exports.getD {}, defaultGroup := defaultGroup.join,
           disks := disks.join, databasePath := databasePath.join,
           unknown := ms.filter (fun (k, _) => !sectionNames.contains k) }
  | _ => j.invalidType "struct FileConfig"

/-- Layers the command line over the file over the defaults, and checks the
result. -/
def resolve (file : FileConfig) (cli : Overrides) : Except String Settings :=
  let defaults : Settings := {}
  let settings : Settings :=
    { queue :=
        { name := (cli.queue <|> file.queue.name).getD defaults.queue.name,
          connection := cli.connection <|> file.queue.connection,
          maxAttempts := file.queue.maxAttempts.getD defaults.queue.maxAttempts,
          backoffSecs := file.queue.backoffSecs.getD defaults.queue.backoffSecs }
      exports :=
        { chunkSize := (cli.chunkSize <|> file.exports.chunkSize).getD defaults.exports.chunkSize,
          disk := file.exports.disk.getD defaults.exports.disk,
          directory := file.exports.directory.getD defaults.exports.directory,
          tempDir := file.exports.tempDir }
      filters := match file.defaultGroup with
        | some g => { defaultGroup := g }
        | none => {}
      storage := match file.disks with
        | some ds => StorageSettings.ofEntries ds
        | none => {}
      database := { path := (cli.db <|> file.databasePath).getD defaults.database.path } }
  match settings.violation? with
  | some m => .error m
  | none => .ok settings

/-- The name of the configuration file looked up in the working directory. -/
def localFileName : String := "reportable.json"

/-- What reading the file at a path gives. -/
inductive FileRead where
  /-- Nothing is at the path. -/
  | missing
  /-- Something is there but cannot be read as text; the reason. -/
  | unreadable (reason : String)
  | text (contents : String)
  deriving Repr, DecidableEq, Inhabited

/-- Why a configuration could not be loaded. -/
inductive LoadError where
  /-- The file named on the command line does not exist. -/
  | notFound (path : String)
  | unreadable (path reason : String)
  | unparsable (path reason : String)
  /-- The layered settings break a rule; the rule's message. -/
  | invalid (message : String)
  deriving Repr, DecidableEq, Inhabited

/-- The error's text followed by the texts of its causes, outermost first. -/
def LoadError.causes : LoadError → List String
  | .notFound p => ["Config file not found: " ++ p]
  | .unreadable p r => ["Failed to read config file: " ++ p, r]
  | .unparsable p r => ["Failed to parse config file: " ++ p, r]
  | .invalid m => [m]

/-- The error's text with its causes. -/
def LoadError.message (e : LoadError) : String := ": ".intercalate e.causes

/-- Loads the configuration: the file named on the command line, which must
exist, or else the local file if there is one, layered under the command
line. `read` tells what is at a path. -/
def load (cli : Overrides) (read : String → FileRead) : Except LoadError Settings := do
  let path ← match cli.configPath with
    | some p =>
      match read p with
      | .missing => throw (.notFound p)
      | _ => pure (some p)
    | none =>
      match read localFileName with
      | .missing => pure none
      | _ => pure (some localFileName)
  let file ← match path with
    | none => pure {}
    | some p =>
      match read p with
      | .missing => pure {}
      | .unreadable r => throw (.unreadable p r)
      | .text t =>
        match decodeText t FileConfig.decode with
        | .ok f => pure f
        | .error m => throw (.unparsable p m)
  (resolve file cli).mapError .invalid

end ReportExport.Config
