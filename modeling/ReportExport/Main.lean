import ReportExport.Cli.Run
import ReportExport.Sql.Snapshot
import Std.Time.DateTime.Timestamp

/-!
# The program on the machine

`reportable` run on the machine's own files. The run itself is `Cli.run`
over a workspace; this layer only fills the workspace from the machine
before the run and writes the changes back after it:

1. the environment variables the program reads, the working directory, the
   time, and a fresh start for the ids it hands out;
2. the environment files of the working directory and the directories above
   it, the local configuration file, and then every path the run will touch
   (`Cli.touchedPaths`), each with the directories leading to it; a file
   holding a saved database is opened as that database;
3. after the run, the directories and files it made or changed are written,
   the files it removed are deleted, and every database it changed is saved
   to its file;
4. the output and error texts are printed and the exit code returned.
-/

namespace ReportExport.Machine

open Cli

/-- What is found at a path of the machine. -/
inductive Found where
  | text (contents : String)
  /-- A file whose contents are not text. -/
  | binary
  | directory
  | nothing

/-- The machine's path of a tree path. -/
def machinePath (p : TreePath) : String := "/" ++ "/".intercalate p

/-- Looks at a path of the machine. -/
def probe (p : TreePath) : IO Found := do
  try
    pure (.text (← IO.FS.readFile (machinePath p)))
  catch e =>
    match e with
    | .inappropriateType _ 21 _ => pure .directory
    | .otherError 21 _ => pure .directory
    | .userError _ => pure .binary
    | _ => pure .nothing

/-- Adds what is at a path, and at the directories leading to it, to a
workspace; the walk stops at the first file or missing entry. -/
def learn (w : Workspace) (p : TreePath) : IO Workspace := do
  let mut w := w
  for i in List.range p.length do
    let q := p.take (i + 1)
    match w.files.node? q with
    | some .directory => continue
    | some (.file _) => break
    | none =>
      match ← probe q with
      | .directory => w := { w with files := w.files.put q .directory }
      | .text t =>
        match Sql.Database.ofSnapshotText? t with
        | some db => w := { w.storeDatabase q db with files := w.files.put q (.file "") }
        | none => w := { w with files := w.files.put q (.file t) }
        break
      | .binary =>
        w := { w with files := w.files.put q (.file "\x00") }
        break
      | .nothing => break
  return w

/-- The variables of the environment the program reads. -/
def variableNames : List String :=
  valueOptions.map (·.envVar) ++ ["REPORTABLE_LOG", "RUST_LOG"]

/-- The program's environment. -/
def readEnvironment : IO Environment := do
  let mut env : Environment := []
  for name in variableNames do
    if let some value ← IO.getEnv name then
      env := env ++ [(name, value)]
  return env

/-- Writes back what a run changed. -/
def save (before after : Workspace) : IO Unit := do
  let databases := after.databases.map Prod.fst
  for (p, n) in after.files.entries do
    if n == .directory && before.files.node? p != some .directory then
      IO.FS.createDirAll (machinePath p)
  for (p, n) in after.files.entries do
    if let .file contents := n then
      if !databases.contains p && before.files.node? p != some (.file contents) then
        IO.FS.writeFile (machinePath p) contents
  for (p, n) in before.files.entries do
    if let .file _ := n then
      if (after.files.node? p).isNone then
        try IO.FS.removeFile (machinePath p) catch _ => pure ()
  for (p, db) in after.databases do
    let text := db.snapshotText
    if (before.database? p).map Sql.Database.snapshotText != some text then
      IO.FS.writeFile (machinePath p) text

/-- Runs the program with its arguments; the exit code. -/
def runOnMachine (args : List String) : IO UInt32 := do
  let env ← readEnvironment
  let cwd := Workspace.normalComponents (toString (← IO.currentDir))
  let now := (← Std.Time.Timestamp.now).toSecondsSinceUnixEpoch.val
  let start := (← IO.monoNanosNow) % Nat.pow 2 40
  let mut w : Workspace := { scratch := ["tmp"], clock := now, issued := start }
  for i in List.range (cwd.length + 1) do
    w ← learn w (cwd.take (cwd.length - i) ++ [envFileName])
  w ← learn w (cwd ++ [Config.localFileName])
  w ← learn w (["tmp"])
  for _ in List.range 2 do
    for p in touchedPaths args env cwd w do
      w ← learn w p
  let (exit, after) := Cli.run args env cwd w
  save w after
  IO.print exit.stdout
  IO.eprint exit.stderr
  return exit.code.toUInt32

end ReportExport.Machine

/-- The entry point of `reportable`. -/
def main (args : List String) : IO UInt32 := ReportExport.Machine.runOnMachine args
