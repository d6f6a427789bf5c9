import ReportExport.Api.Basic
import ReportExport.Config.File

/-!
# The JSON command interface: configuration

Resolving a configuration from a file value and command-line values, loading
one from a file, and the defaults, each shown as the settings' view.
-/

namespace ReportExport.Api

open Config

/-- The view of resolved settings. -/
def settingsView (s : Settings) : List (String × Json) :=
  [("queue", .obj [("name", .str s.queue.name), ("connection", Json.opt Json.str s.queue.connection),
      ("max_attempts", .nat s.queue.maxAttempts), ("backoff_secs", .nat s.queue.backoffSecs)]),
   ("export", .obj [("chunk_size", .nat s.exports.chunkSize), ("disk", .str s.exports.disk),
      ("directory", .str s.exports.directory), ("temp_dir", Json.opt Json.str s.exports.tempDir)]),
   ("filters", .obj [("default_group", .str s.filters.defaultGroup)]),
   ("storage", .obj [("disks", .obj (s.storage.disks.map fun (n, d) =>
      (n, .obj [("driver", .str d.driver.token), ("root", .str d.root)])))]),
   ("database", .obj [("path", .str s.database.path)])]

/-- The command-line values of a request's `cli` object. -/
def overridesOf (req : Json) : Except String Overrides := do
  let cli := (req.get? "cli").getD (.obj [])
  pure { queue := ← strOpt cli "queue", connection := ← strOpt cli "connection",
         chunkSize := ← natOpt cli "chunk_size", db := ← strOpt cli "db" }

/-- `config`: resolves a file value under command-line values. -/
def configOp (req : Json) : Handler := do
  let cli ← overridesOf req
  let file := match req.get? "file" with
    | some j => decodeValue j FileConfig.decode
    | none => .ok {}
  match file with
  | .error m => return decodeFailure m
  | .ok file =>
    match resolve file cli with
    | .error m => return failure "ConfigError" m
    | .ok s => return ok (.obj (("unknown_fields", .arr (file.unknown.map (fun (k, _) => .str k))) ::
        settingsView s))

/-- The directory temporary files are placed in, as it is shown. -/
def tempDirectory : String := "<tmp>"

/-- `config_load`: loads a configuration from a file holding `text`, from a
path that does not exist, or from the working directory, which has no file. -/
def configLoadOp (req : Json) : Handler := do
  let cli ← overridesOf req
  let text ← strOpt req "text"
  let name := (← strOpt req "name").getD localFileName
  let (path, files) : Option String × List (String × String) :=
    match text with
    | some t => (some (tempDirectory ++ "/" ++ name), [(tempDirectory ++ "/" ++ name, t)])
    | none =>
      if flag req "missing" then (some (tempDirectory ++ "/missing/" ++ localFileName), [])
      else (none, [])
  let read (p : String) : FileRead := match files.find? (fun e => e.1 == p) with
    | some (_, t) => .text t
    | none => .missing
  match load { cli with configPath := path } read with
  | .error e => return failure "ConfigError" e.message
  | .ok s => return ok (.obj (settingsView s))

/-- `config_default`: the default settings, and that they are what empty
inputs resolve to. -/
def configDefaultOp : Handler := do
  let defaults : Settings := {}
  let resolved := resolve {} {}
  let queueDefault : QueueSettings := {}
  return ok (.obj (settingsView defaults ++
    [("equals_resolved_empty", .bool (match resolved with
       | .ok s => decide (s = defaults)
       | .error _ => false)),
     ("queue_default_equal", .bool (defaults.queue == queueDefault))]))

end ReportExport.Api
