import ReportExport.Api.Basic
import ReportExport.Storage.Disk

/-!
# The JSON command interface: a disk

A disk rooted at a directory that does not exist yet, driven step by step;
each step's entry carries every entry under the root.
-/

namespace ReportExport.Api

/-- The answer for a storage error. -/
def StorageError.answer (e : StorageError) : Json :=
  failure ("StorageError." ++ e.variantName) e.message

/-- The view of a listing: files map to their contents, directories to null. -/
def listingView (entries : List (String × FileNode)) : Json :=
  .obj (entries.map fun (p, n) => (p, match n with
    | .file c => .str c
    | .directory => .null))

/-- Where a file handed to `put_file` is written first: in the working
directory, or on another file system. -/
def sourcePath (elsewhere : Bool) : TreePath :=
  if elsewhere then ["shm", "source.csv"] else ["source.csv"]

/-- One step on a disk: the answer and the tree after it. -/
def diskStep (d : FilesystemDisk) (t : FileTree) (step : Json) :
    Except String (Json × FileTree) := do
  let done (r : Except StorageError FileTree) : Json × FileTree :=
    match r with
    | .ok t => (ok .null, t)
    | .error e => (StorageError.answer e, t)
  match ← stepName step with
  | "put" => return done (d.put t (← str step "path") (← str step "contents"))
  | "put_file" =>
    let path ← str step "path"
    let contents ← str step "contents"
    let elsewhere := (← strOpt step "source") == some "shm"
    let source := sourcePath elsewhere
    let staged := ((t.createDirAll source.dropLast).toOption.getD t)
    let staged := (staged.writeFile source contents).toOption.getD staged
    match d.putFile staged path source !elsewhere with
    | .ok t =>
      return (ok (.obj [("source_left", .bool ((t.exists? source).toOption.getD false))]), t)
    | .error e => return (StorageError.answer e, t)
  | "exists" =>
    match d.exists? t (← str step "path") with
    | .ok b => return (ok (.bool b), t)
    | .error e => return (StorageError.answer e, t)
  | "make_directory" => return done (d.makeDirectory t (← str step "path"))
  | "delete" => return done (d.delete t (← str step "path"))
  | "root" => return (ok (.str ("/".intercalate d.root)), t)
  | other => unknownStep other

/-- Runs the steps in order. -/
def diskSteps (d : FilesystemDisk) : FileTree → List Json → List Json
  | _, [] => []
  | t, step :: rest =>
    let (entry, t) := match diskStep d t step with
      | .ok r => r
      | .error m => (failure "bad_input" m, t)
    withSnapshot entry [("files", listingView (d.listing t))] :: diskSteps d t rest

/-- `disk`: a disk rooted at a fresh directory, driven by steps. -/
def diskOp (req : Json) : Handler := do
  let name := (← strOpt req "name").getD "local"
  let d : FilesystemDisk := { name, root := ["disk"] }
  return ok (.obj [("name", .str name), ("steps", .arr (diskSteps d {} ((← arrOpt req "steps").getD [])))])

end ReportExport.Api
