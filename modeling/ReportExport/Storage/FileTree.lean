import ReportExport.Text.Fresh

/-!
# A file tree

Files and directories addressed by paths of components below a base
directory that always exists. The operations follow the system calls a
program makes and fail the way those calls do:

* a path whose leading components are not all directories fails with
  "no such file or directory" at the first missing one, or "not a
  directory" at the first file;
* making a directory where anything exists fails with "file exists";
* opening a directory as a file, removing a directory as a file, or
  renaming a file onto a directory fails with "is a directory".
-/

namespace ReportExport

/-- An entry of the tree. -/
inductive FileNode where
  | directory
  | file (contents : String)
  deriving Repr, DecidableEq, Inhabited

/-- A failed system call. -/
inductive OsError where
  | notFound
  | alreadyExists
  | notADirectory
  | isADirectory
  deriving Repr, DecidableEq, Inhabited

/-- The system's text for the error, with its number. -/
def OsError.message : OsError → String
  | .notFound => "No such file or directory (os error 2)"
  | .alreadyExists => "File exists (os error 17)"
  | .notADirectory => "Not a directory (os error 20)"
  | .isADirectory => "Is a directory (os error 21)"

/-- A path below the base directory, as its components. -/
abbrev TreePath := List String

/-- The tree: every entry below the base, each with its parent present as a
directory. -/
structure FileTree where
  entries : List (TreePath × FileNode) := []
  deriving Inhabited

namespace FileTree

/-- The node at a path; the base is a directory. -/
def node? (t : FileTree) (p : TreePath) : Option FileNode :=
  if p.isEmpty then some .directory else (t.entries.find? (fun e => e.1 == p)).map Prod.snd

/-- Whether a directory is at a path. -/
def isDirectory (t : FileTree) (p : TreePath) : Bool := t.node? p == some .directory

/-- Checks that every leading component of a path is a directory. -/
def walk (t : FileTree) (p : TreePath) : Except OsError Unit :=
  (List.range p.length).forM fun i =>
    match t.node? (p.take i) with
    | some .directory => .ok ()
    | some (.file _) => .error .notADirectory
    | none => .error .notFound

/-- The node at a path, or why it cannot be reached. -/
def metadata (t : FileTree) (p : TreePath) : Except OsError FileNode := do
  t.walk p
  match t.node? p with
  | some n => pure n
  | none => throw .notFound

/-- Whether something is at a path; errors other than absence are errors. -/
def exists? (t : FileTree) (p : TreePath) : Except OsError Bool :=
  match t.metadata p with
  | .ok _ => .ok true
  | .error .notFound => .ok false
  | .error e => .error e

/-- Sets the node at a path, keeping the entry's place when it exists. -/
def put (t : FileTree) (p : TreePath) (n : FileNode) : FileTree :=
  if t.entries.any (fun e => e.1 == p) then
    { entries := t.entries.map (fun e => if e.1 == p then (p, n) else e) }
  else { entries := t.entries ++ [(p, n)] }

/-- Removes the entry at a path and everything below it. -/
def erase (t : FileTree) (p : TreePath) : FileTree :=
  { entries := t.entries.filter (fun e => !(p.isPrefixOf e.1)) }

/-- Makes one directory. -/
def mkdir (t : FileTree) (p : TreePath) : Except OsError FileTree := do
  t.walk p
  match t.node? p with
  | some _ => throw .alreadyExists
  | none => pure (t.put p .directory)

/-- Makes a directory and any missing parents; a directory already there is
fine, anything else in the way is an error. -/
def createDirAll (t : FileTree) (p : TreePath) : Except OsError FileTree :=
  let rec go (p : TreePath) : Nat → FileTree → Except OsError FileTree
    | 0, t => .ok t
    | fuel + 1, t =>
      if p.isEmpty then .ok t
      else
        match t.mkdir p with
        | .ok t => .ok t
        | .error .notFound => do
          let t ← go p.dropLast fuel t
          match t.mkdir p with
          | .ok t => pure t
          | .error e => if t.isDirectory p then pure t else throw e
        | .error e => if t.isDirectory p then .ok t else .error e
  go p (p.length + 1) t

/-- Creates or truncates a file and writes its contents. -/
def writeFile (t : FileTree) (p : TreePath) (contents : String) : Except OsError FileTree := do
  t.walk p
  match t.node? p with
  | some .directory => throw .isADirectory
  | _ => pure (t.put p (.file contents))

/-- The contents of a file. -/
def readFile (t : FileTree) (p : TreePath) : Except OsError String := do
  match ← t.metadata p with
  | .file c => pure c
  | .directory => throw .isADirectory

/-- Removes a file. -/
def removeFile (t : FileTree) (p : TreePath) : Except OsError FileTree := do
  match ← t.metadata p with
  | .directory => throw .isADirectory
  | .file _ => pure (t.erase p)

/-- Moves a file to a new path, replacing a file there. -/
def rename (t : FileTree) (source target : TreePath) : Except OsError FileTree := do
  let node ← t.metadata source
  t.walk target
  match node, t.node? target with
  | .file _, some .directory => throw .isADirectory
  | .directory, some (.file _) => throw .notADirectory
  | _, _ =>
    if source == target then pure t
    else
      let moved := (t.entries.filter (fun e => source.isPrefixOf e.1)).map
        (fun (q, n) => (target ++ q.drop source.length, n))
      let t := t.erase target |>.erase source
      pure { entries := t.entries ++ moved }

/-- Copies a file's contents to a new path. -/
def copy (t : FileTree) (source target : TreePath) : Except OsError FileTree := do
  let contents ← t.readFile source
  t.writeFile target contents

/-- The path of every entry. -/
def paths (t : FileTree) : List TreePath := t.entries.map Prod.fst

/-- A name for a new entry of a directory among the candidates `name start`,
`name (start + 1)`, …: the first whose path in the directory leads to no
entry of the tree, and to none of the paths to avoid. -/
def freshName (t : FileTree) (dir : TreePath) (name : Nat → String) (avoid : List TreePath)
    (start : Nat) : String :=
  let taken := t.paths ++ avoid
  name (firstFree (fun k => taken.all fun q => !(dir ++ [name k]).isPrefixOf q) start taken.length)

/-- Every entry strictly below a directory, as paths relative to it. -/
def below (t : FileTree) (dir : TreePath) : List (TreePath × FileNode) :=
  (t.entries.filter (fun e => dir.isPrefixOf e.1 && dir.length < e.1.length)).map
    (fun (q, n) => (q.drop dir.length, n))

/-- Every entry strictly below a directory with its path relative to it,
sorted by path; directories end in `/`. -/
def listing (t : FileTree) (dir : TreePath) : List (String × FileNode) :=
  let named := (t.below dir).map fun (q, n) =>
    ("/".intercalate q ++ (if n == .directory then "/" else ""), n)
  named.mergeSort (fun a b => !(b.1 < a.1))

end FileTree

end ReportExport
