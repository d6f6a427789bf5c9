import ReportExport.Storage.Disk
import ReportExport.Text.Quoted

/-!
# The storage manager

Disks addressed by name. Registering a disk replaces any disk of the same
name; looking up a name that has no disk is an error.
-/

namespace ReportExport

/-- Disks by name, in the order they were registered. -/
structure StorageManager where
  disks : List FilesystemDisk := []
  deriving Inhabited

namespace StorageManager

/-- Registers a disk under its own name, replacing any disk of that name. -/
def register (m : StorageManager) (d : FilesystemDisk) : StorageManager :=
  { disks := m.disks.filter (fun e => e.name != d.name) ++ [d] }

/-- The disk of a name. -/
def disk (m : StorageManager) (name : String) : Except StorageError FilesystemDisk :=
  match m.disks.find? (fun d => d.name == name) with
  | some d => .ok d
  | none => .error (.unknownDisk name)

/-- The disk names in order. -/
def names (m : StorageManager) : List String :=
  (m.disks.map (·.name)).mergeSort (fun a b => !(b < a))

/-- The debug text: the disk names in order. -/
def debugText (m : StorageManager) : String :=
  "StorageManager \x7b disks: [" ++ ", ".intercalate (m.names.map Text.debugQuote) ++ "] \x7d"

end StorageManager

end ReportExport
