import ReportExport.Api.Exports
import ReportExport.Api.Config
import ReportExport.Cli.Run

/-!
# The JSON command interface: the application

A whole application in a private working directory `app` of a fresh
workspace: files are written there first, the configuration is resolved from
a file value and command-line values, and every path in it is taken inside
the working directory, keeping only its plain components. The application
holds the `rows` and `broken` kinds and adds `table`.

Steps drive the application, run the program's command line in the same
directory, and write or list files. Each step's entry carries the records
read through the application's database, none once it is closed or gone.
Printed timestamps are masked as `<ts>`.
-/

namespace ReportExport.Api

open Config Store Cli

/-- The working directory of the application. -/
def appHome : TreePath := ["app"]

/-- A path taken inside the working directory, keeping its plain components,
written from the workspace's root. -/
def rerooted (p : String) : String :=
  "/".intercalate (Workspace.rootName :: (appHome ++ Workspace.normalComponents p))

/-- The settings with every path taken inside the working directory. -/
def rerootSettings (s : Settings) : Settings :=
  { s with
    database := { path := rerooted s.database.path }
    exports := { s.exports with tempDir := s.exports.tempDir.map rerooted }
    storage := { disks := s.storage.disks.map fun (n, d) => (n, { d with root := rerooted d.root }) } }

/-- The path of a file name inside the working directory: its components,
repeated slashes and inner `.` dropped; `none` for a name that is absolute,
starts with `.`, goes up with `..`, or names nothing. -/
def fileComponents (name : String) : Option TreePath :=
  let comps := name.splitOn "/"
  let kept := comps.filter fun c => c != "" && c != "."
  if name.startsWith "/" || comps.head? == some "." || comps.contains ".." || kept.isEmpty then none
  else some kept

/-- Writes files into the working directory, in order. -/
def writeFiles (w : Workspace) : List (String × Json) → Except String Workspace
  | [] => .ok w
  | (name, text) :: rest => do
    let some comps := fileComponents name | throw ("bad file name '" ++ name ++ "'")
    let contents ← match text with
      | .str t => pure t
      | _ => throw ("file '" ++ name ++ "' must hold text")
    match w.writeFile (appHome ++ comps) contents with
    | .ok w => writeFiles w rest
    | .error e => throw ("cannot write '" ++ name ++ "': " ++ e.message)

/-- Masks the numbers of the timestamp fields of printed records. -/
def maskTimestamps (text : String) : String :=
  let fields := ["started_at", "completed_at", "failed_at", "created_at", "updated_at"]
  let maskLine (line : String) : String :=
    match fields.find? fun f => line.startsWith ("  \"" ++ f ++ "\": ") with
    | none => line
    | some f =>
      let lead := "  \"" ++ f ++ "\": "
      let rest := line.toList.drop lead.length
      let digits := rest.takeWhile Char.isDigit
      if digits.isEmpty then line
      else lead ++ "<ts>" ++ String.ofList (rest.drop digits.length)
  "\n".intercalate ((text.splitOn "\n").map maskLine)

/-- The view of an application error. -/
def AppError.answer (e : AppError) : Json := failure "AppError" e.message

/-- The view of a command's transcript. -/
def transcriptView (t : Transcript) : List (String × Json) :=
  [("stdout", .str (maskTimestamps t.output)),
   ("result", match t.result with
     | .ok () => .obj [("ok", .null)]
     | .error e => AppError.answer e)]

/-- An application session: the workspace, the settings, and the running
application, if any. -/
structure AppSession where
  workspace : Workspace
  settings : Settings
  filters : FilterSettings
  app : Option CoreApp

/-- The report kinds the application is built with. -/
def appKinds : List String := ["rows", "broken"]

/-- Every disk of the settings with its root relative to the working
directory and its listing. -/
def disksView (session : AppSession) : Json :=
  .obj (session.settings.storage.disks.map fun (n, d) =>
    let root := Workspace.resolve appHome d.root
    (n, .obj [("root", .str ("/".intercalate (root.drop appHome.length))),
      ("files", listingView (session.workspace.files.listing root))]))

/-- The records as the application's database lists them. -/
def sessionRecords (session : AppSession) : Json :=
  match session.app with
  | some app =>
    if app.exporter.store.closed then .arr [] else recordsView (app.storeIn session.workspace)
  | none => .arr []

/-- The answer of a pipeline action, and the session after it. -/
def sessionAction {α : Type} (session : AppSession) (app : CoreApp) (m : ExportM α)
    (view : α → Json) : Json × AppSession :=
  let (r, app, w) := app.act session.workspace m
  let answer := match r with
    | .ok a => ok (view a)
    | .error e => ExportError.answer e
  (answer, { session with workspace := w, app := some app })

/-- The answer of a command, and the session after it. -/
def sessionCommand (session : AppSession) (run : Workspace → Transcript × CoreApp × Workspace)
    (extra : CoreApp → List (String × Json)) : Json × AppSession :=
  let (t, app, w) := run session.workspace
  (ok (.obj (transcriptView t ++ extra app)), { session with workspace := w, app := some app })

/-- The view of the running application. -/
def infoView (app : CoreApp) : Json :=
  let kinds := app.exporter.registry.kinds.mergeSort fun a b => !(b < a)
  .obj [("kinds", .arr (kinds.map Json.str)), ("has_table", .bool (kinds.contains "table")),
    ("disks", .arr (app.exporter.storage.names.map Json.str)),
    ("queue", .str app.settings.queue.name), ("queue_backend", .str "memory"),
    ("queue_connection", .str app.exporter.queue.connection), ("shutdown", .bool app.shutdown)]

/-- Runs setup statements on the application's store. -/
def setupStore (store : RecordStore) : List Json → Except String RecordStore
  | [] => .ok store
  | .str sql :: rest =>
    match store.execute sql [] with
    | (store, .ok _) => setupStore store rest
    | (_, .error err) => .error ("setup_sql failed: " ++ err.message)
  | _ :: _ => .error "setup_sql entries must be strings"

/-- Builds the application of the session anew on its workspace. -/
def reopen (session : AppSession) : Json × AppSession :=
  match CoreApp.build session.settings appKinds appHome session.workspace with
  | (w, .ok app) => (ok .null, { session with workspace := w, app := some app })
  | (w, .error e) => (AppError.answer e, { session with workspace := w, app := none })

/-- Runs the program's command line in the working directory. -/
def cliStep (session : AppSession) (step : Json) : Except String (Json × AppSession) := do
  let args := ((← arrOpt step "args").getD []).filterMap Json.str?
  if args.contains "--watch" then throw "--watch waits for a signal and is not run as a subprocess"
  let given := ((← (objField step "env" <|> pure []))).filterMap fun (k, v) => v.str?.map (k, ·)
  let logging := (given.lookup "REPORTABLE_LOG").isSome || (given.lookup "RUST_LOG").isSome ||
    flag step "log_default"
  let env := if (given.lookup "REPORTABLE_LOG").isSome then given else given ++ [("REPORTABLE_LOG", "off")]
  let (exit, w) := Cli.run args env appHome session.workspace
  let printed : List (String × Json) := if logging then [("stdout", .null), ("stderr", .null)]
    else [("stdout", .str (maskTimestamps exit.stdout)), ("stderr", .str exit.stderr)]
  return (ok (.obj (("code", .nat exit.code) :: printed)), { session with workspace := w })

/-- One step of the session: the answer and the session after it. -/
def appStep (session : AppSession) (step : Json) : Except String (Json × AppSession) := do
  let name ← stepName step
  let needApp : Except String CoreApp := match session.app with
    | some app => .ok app
    | none => .error "no app"
  match name with
  | "write_files" =>
    let w ← writeFiles session.workspace ((← objField step "files"))
    return (ok .null, { session with workspace := w })
  | "files" => return (ok (disksView session), session)
  | "cli" => cliStep session step
  | "reopen" => return reopen session
  | "info" => return (ok (infoView (← needApp)), session)
  | "setup_sql" =>
    let app ← needApp
    let store ← setupStore (app.storeIn session.workspace) ((← arrOpt step "sql").getD [])
    let w := if store.closed then session.workspace
      else session.workspace.storeDatabase app.databasePath store.conn.db
    return (ok .null, { session with workspace := w })
  | "exec_sql" =>
    let app ← needApp
    match (app.storeIn session.workspace).run (← str step "sql") [] with
    | (_, .error err) => throw ("exec_sql failed: " ++ err.message)
    | (store, .ok result) =>
      let w := if store.closed then session.workspace
        else session.workspace.storeDatabase app.databasePath store.conn.db
      return (ok (if result.schemaChange then .null else .nat result.changes),
        { session with workspace := w })
  | "dispatch" =>
    let app ← needApp
    match ← definitionOf session.filters app.exporter.registry step with
    | .error answer => return (answer, session)
    | .ok d => return sessionAction session app (Exporter.dispatch d) recordView
  | "find" =>
    let app ← needApp
    return sessionAction session app (Exporter.find (← int step "id")) recordView
  | "list" =>
    let app ← needApp
    let token ← str step "status"
    match ExportStatus.ofToken? token with
    | some st => return sessionAction session app (Exporter.list st) fun rs => .arr (rs.map recordView)
    | none => return (failure "UnknownStatus" (ExportStatus.unknownMessage token), session)
  | "work" =>
    let app ← needApp
    return sessionCommand session app.work fun _ => []
  | "status" =>
    let app ← needApp
    let id ← int step "id"
    return sessionCommand session (app.status · id) fun _ => []
  | "retry" =>
    let app ← needApp
    let id ← int step "id"
    return sessionCommand session (app.retry · id) fun _ => []
  | "watch" =>
    let app ← needApp
    return sessionCommand session app.watch fun app => [("shutdown", .bool app.shutdown)]
  | "checkpoint" =>
    let app ← needApp
    match app.checkpoint with
    | .ok () => return (ok .null, session)
    | .error e => return (failure "SqliteError" e.serviceMessage, session)
  | "close" =>
    let app ← needApp
    return (ok .null, { session with app := some app.close })
  | other => unknownStep other

/-- Runs the steps in order; each entry carries the records. -/
def appSteps : AppSession → List Json → List Json × AppSession
  | session, [] => ([], session)
  | session, step :: rest =>
    let (entry, session) := match appStep session step with
      | .ok r => r
      | .error m => (failure "bad_input" m, session)
    let (entries, final) := appSteps session rest
    (withSnapshot entry [("records", sessionRecords session)] :: entries, final)

/-- `app`: an application in a fresh working directory, driven by steps; the
entries and the final listing of the disks. -/
def appOp (req : Json) : Handler := do
  let w ← writeFiles {} ((← (objField req "files" <|> pure [])))
  let cli ← overridesOf req
  let file := match req.get? "file" with
    | some j => decodeValue j FileConfig.decode
    | none => .ok {}
  match file with
  | .error m => return decodeFailure m
  | .ok file =>
    match resolve file cli with
    | .error m => return failure "ConfigError" m
    | .ok settings =>
      let settings := rerootSettings settings
      let filters := match req.get? "default_group" with
        | some _ => settingsOf req
        | none => settings.filters
      match CoreApp.build settings appKinds appHome w with
      | (_, .error e) => return AppError.answer e
      | (w, .ok app) =>
        let session : AppSession := { workspace := w, settings, filters, app := some app }
        let (entries, session) := appSteps session ((← arrOpt req "steps").getD [])
        return ok (.obj [("steps", .arr entries), ("files", disksView session)])

end ReportExport.Api
