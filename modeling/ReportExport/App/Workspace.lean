import ReportExport.Storage.FileTree
import ReportExport.Sql.Schema

/-!
# The workspace an application runs in

The application works on a machine's files: a file tree, the databases kept
in files of that tree, a counter of the ids handed out, which stays unique
across every process that runs on the machine, the directory for temporary
files, and the time. Paths are texts resolved against a working directory; the
root is written `/` or `<tmp>`, so `<tmp>/app/x.db` names `x.db` in the
directory `app` whatever the working directory.

A database file is opened the way the engine opens one: its parent
directories are made first; a directory at the path cannot be opened, a new
path becomes an empty database, and a file that holds text but no database
is refused.
-/

namespace ReportExport

/-- A machine: its files, the databases stored in them, the ids issued, where
files go when no temporary directory is configured, and the time in seconds
since the epoch. -/
structure Workspace where
  files : FileTree := {}
  databases : List (TreePath × Sql.Database) := []
  issued : Nat := 0
  scratch : TreePath := ["scratch"]
  clock : Int := 1700000000
  deriving Inhabited

/-- Why a database file could not be opened. -/
inductive OpenFailure where
  /-- A parent directory could not be made. -/
  | io (e : OsError)
  /-- The engine refused the file. -/
  | engine (e : Sql.SqlError)

namespace Workspace

/-- How the root directory is written at the start of a path. -/
def rootName : String := "<tmp>"

/-- The components of a path text that name entries: empty components, `.`
and `..` are dropped. -/
def normalComponents (p : String) : List String :=
  (p.splitOn "/").filter fun c => c != "" && c != "." && c != ".."

/-- Resolves a path text against a working directory. A path starting with
`/` or with the root's name starts at the root; `.` stays where it is and
`..` goes up, never above the root. -/
def resolve (cwd : TreePath) (p : String) : TreePath :=
  let rootLead := rootName ++ "/"
  let (start, rest) :=
    if p.startsWith rootLead then ([], String.ofList (p.toList.drop rootLead.length))
    else if p.startsWith "/" then ([], p)
    else (cwd, p)
  (rest.splitOn "/").foldl (fun (acc : TreePath) c =>
    if c == "" || c == "." then acc
    else if c == ".." then acc.dropLast
    else acc ++ [c]) start

/-- The absolute text of a tree path. -/
def shown (p : TreePath) : String := "/".intercalate (rootName :: p)

/-- The database stored at a path, if any. -/
def database? (w : Workspace) (p : TreePath) : Option Sql.Database :=
  (w.databases.find? fun e => e.1 == p).map Prod.snd

/-- Stores a database at a path, replacing the one there. -/
def storeDatabase (w : Workspace) (p : TreePath) (db : Sql.Database) : Workspace :=
  if w.databases.any (fun e => e.1 == p) then
    { w with databases := w.databases.map fun e => if e.1 == p then (p, db) else e }
  else { w with databases := w.databases ++ [(p, db)] }

/-- Writes a file, replacing whatever file was there, database or text. -/
def writeFile (w : Workspace) (p : TreePath) (contents : String) : Except OsError Workspace := do
  let files ← w.files.createDirAll p.dropLast
  let files ← files.writeFile p contents
  pure { w with files, databases := w.databases.filter fun e => e.1 != p }

/-- Opens the database file at a path, making its parent directories and
creating it when it is missing. -/
def openDatabase (w : Workspace) (p : TreePath) : Except OpenFailure (Workspace × Sql.Database) := do
  let files ← (w.files.createDirAll p.dropLast).mapError .io
  match files.node? p with
  | some .directory => throw (.engine { code := 14, message := "unable to open database file" })
  | some (.file contents) =>
    match w.database? p with
    | some db => pure ({ w with files }, db)
    | none =>
      if contents.isEmpty then pure ({ w with files }, {})
      else throw (.engine { code := 26, message := "file is not a database" })
  | none => pure ({ w with files := files.put p (.file "") }, {})

end Workspace

end ReportExport
