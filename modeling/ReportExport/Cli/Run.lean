import ReportExport.Cli.EnvFile
import ReportExport.App.Core

/-!
# Running the program

One run of `reportable` in a workspace, from a working directory:

1. the environment file is loaded;
2. the command line is read; a help or the version is printed and the run
   succeeds, a usage error is printed on the error stream and the run exits
   with code 2;
3. the configuration is loaded: the file the command line names, which must
   exist, or `reportable.json` in the working directory when there is one,
   under the command line's values;
4. the application is built with the `table` kind only, and runs the
   command, `work` when none is named.

A failure in the last two steps exits with code 1 and prints the outermost
error's text, framed by blank lines, on the error stream; what the command
printed before it stays on the output stream.
-/

namespace ReportExport.Cli

open Config

/-- How a run ended: its exit code and what it printed. -/
structure Exit where
  code : Nat
  stdout : String := ""
  stderr : String := ""
  deriving Repr, DecidableEq, Inhabited

/-- What is at a path, read as a configuration file. -/
def readConfigFile (files : FileTree) (cwd : TreePath) (path : String) : FileRead :=
  match files.metadata (Workspace.resolve cwd path) with
  | .ok (.file text) => .text text
  | .ok .directory => .unreadable OsError.isADirectory.message
  | .error _ => .missing

/-- The exit of a run that failed. -/
def failedExit (stdout : String) (e : AppError) : Exit :=
  { code := 1, stdout, stderr := "\nError: " ++ e.headline ++ "\n\n" }

/-- The paths a run may read or change besides the environment files: the
configuration file, and once the configuration reads, the database, the
disks and the temporary directory. A command line that does not run a
command touches nothing. -/
def touchedPaths (args : List String) (env : Environment) (cwd : TreePath) (w : Workspace) :
    List TreePath :=
  let env := loadEnvFile env w.files cwd
  match parse env args with
  | .run overrides _ =>
    let config := overrides.configPath.map (Workspace.resolve cwd)
    match load overrides (readConfigFile w.files cwd) with
    | .ok s =>
      config.toList ++ [Workspace.resolve cwd s.database.path] ++
        s.storage.disks.map (fun (_, d) => Workspace.resolve cwd d.root) ++
        (s.exports.tempDir.map (Workspace.resolve cwd)).toList
    | .error _ => config.toList
  | _ => []

/-- Runs a command of a built application. -/
def runCommand (app : CoreApp) (w : Workspace) : Command → Transcript × CoreApp × Workspace
  | .work false => app.work w
  | .work true => app.watch w
  | .status id => app.status w id
  | .retry id => app.retry w id

/-- Runs the program with arguments, the program name left out, in an
environment, from a working directory of a workspace. -/
def run (args : List String) (env : Environment) (cwd : TreePath) (w : Workspace) : Exit × Workspace :=
  let env := loadEnvFile env w.files cwd
  match parse env args with
  | .display text => ({ code := 0, stdout := text }, w)
  | .refuse text => ({ code := 2, stderr := text }, w)
  | .run overrides command =>
    match load overrides (readConfigFile w.files cwd) with
    | .error e => (failedExit "" (.config e), w)
    | .ok settings =>
      match CoreApp.build settings [] cwd w with
      | (w, .error e) => (failedExit "" e, w)
      | (w, .ok app) =>
        let (t, _, w) := runCommand app w (command.getD (.work false))
        match t.result with
        | .ok () => ({ code := 0, stdout := t.output }, w)
        | .error e => (failedExit t.output e, w)

end ReportExport.Cli
