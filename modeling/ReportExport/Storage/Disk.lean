import ReportExport.Storage.FileTree

/-!
# Disks

A disk is a named place for files, addressed by relative `/`-separated paths
resolved under its root directory. Leading slashes are dropped, `.`
components are skipped, and a `..` component is refused, so no path leaves
the root. File operations refuse the root itself.

Writing goes through a staging file beside the destination that is then
renamed into place, so readers never see a partial file; the staging file is
removed when the rename fails, and so never outlives the call.
-/

namespace ReportExport

/-- Why a disk operation failed. -/
inductive StorageError where
  | invalidPath (path : String)
  | unknownDisk (name : String)
  | io (error : OsError)
  deriving Repr, DecidableEq, Inhabited

namespace StorageError

/-- The error's text. -/
def message : StorageError → String
  | .invalidPath p => "Invalid storage path: " ++ p
  | .unknownDisk n => "Unknown storage disk: " ++ n
  | .io e => "IO error: " ++ e.message

/-- The variant's name. -/
def variantName : StorageError → String
  | .invalidPath _ => "InvalidPath"
  | .unknownDisk _ => "UnknownDisk"
  | .io _ => "Io"

end StorageError

/-- Lifts a failed system call into a storage error. -/
def liftIo {α : Type} (r : Except OsError α) : Except StorageError α :=
  r.mapError .io

/-- A disk whose files live under a root directory of the tree. -/
structure FilesystemDisk where
  name : String
  root : TreePath
  deriving Repr, DecidableEq, Inhabited

namespace FilesystemDisk

/-- The components of a relative path: split at `/`, empty and `.` parts
dropped; none when a `..` part would leave the root. -/
def components (path : String) : Option (List String) :=
  let parts := (path.splitOn "/").filter (fun s => !s.isEmpty && s != ".")
  if parts.contains ".." then none else some parts

/-- The tree path of a disk path. -/
def resolve (d : FilesystemDisk) (path : String) : Except StorageError TreePath :=
  match components path with
  | some parts => .ok (d.root ++ parts)
  | none => .error (.invalidPath path)

/-- The tree path of a file: never the root itself. -/
def filePath (d : FilesystemDisk) (path : String) : Except StorageError TreePath := do
  let p ← d.resolve path
  if p == d.root then throw (.invalidPath path) else pure p

/-- Whether anything is at a path. -/
def exists? (d : FilesystemDisk) (t : FileTree) (path : String) : Except StorageError Bool := do
  liftIo (t.exists? (← d.resolve path))

/-- Makes a directory and its parents. -/
def makeDirectory (d : FilesystemDisk) (t : FileTree) (path : String) :
    Except StorageError FileTree := do
  liftIo (t.createDirAll (← d.resolve path))

/-- The `k`-th name of a staging file for a destination named `name`. -/
def stagingName (name : String) (k : Nat) : String := "." ++ name ++ "." ++ toString k ++ ".tmp"

/-- A staging path beside a destination, named after it, where the tree
holds nothing. -/
def stagingPath (t : FileTree) (dest : TreePath) : TreePath :=
  dest.dropLast ++ [t.freshName dest.dropLast (stagingName (dest.getLastD "")) [] 0]

/-- Renames a staged file into place; on failure the staging file is removed
and the tree is otherwise unchanged. -/
def settle (t : FileTree) (staging dest : TreePath) : Except StorageError FileTree :=
  match t.rename staging dest with
  | .ok t => .ok t
  | .error e => .error (.io e)

/-- Writes a file, replacing any file there, creating parents as needed. -/
def put (d : FilesystemDisk) (t : FileTree) (path : String) (contents : String) :
    Except StorageError FileTree := do
  let dest ← d.filePath path
  let t ← liftIo (t.createDirAll dest.dropLast)
  let staging := stagingPath t dest
  let staged ← liftIo (t.writeFile staging contents)
  settle staged staging dest

/-- Moves a file of the tree onto the disk, creating parents as needed. A
rename that fails, as it does when the source is on another file system,
falls back to copying through a staging file and removing the source. -/
def putFile (d : FilesystemDisk) (t : FileTree) (path : String) (source : TreePath)
    (sameDevice : Bool := true) : Except StorageError FileTree := do
  let dest ← d.filePath path
  let t ← liftIo (t.createDirAll dest.dropLast)
  match (if sameDevice then t.rename source dest else .error .notFound) with
  | .ok t => pure t
  | .error _ =>
    let staging := stagingPath t dest
    let staged ← liftIo (t.copy source staging)
    let settled ← settle staged staging dest
    pure ((settled.removeFile source).toOption.getD settled)

/-- Deletes a file; a missing file is fine. -/
def delete (d : FilesystemDisk) (t : FileTree) (path : String) : Except StorageError FileTree := do
  let p ← d.filePath path
  match t.removeFile p with
  | .ok t => pure t
  | .error .notFound => pure t
  | .error e => throw (.io e)

/-- Every entry under the root with its path relative to the root:
directories end in `/`. -/
def listing (d : FilesystemDisk) (t : FileTree) : List (String × FileNode) :=
  t.listing d.root

end FilesystemDisk

end ReportExport
