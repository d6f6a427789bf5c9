import Mathlib
import ReportExport.Storage.Disk

/-!
# Disk paths stay under the root

A disk path is split at `/`; empty and `.` segments are dropped, and a `..`
segment refuses the path. What is left is appended to the disk's root, so a
path resolves to the root or to somewhere beneath it, and a file path, which
refuses the root itself, always strictly beneath it.

The file operations of a disk are built from calls on the file tree, each of
which changes the tree only at or below the paths it is given. Followed
through, no operation of a disk changes anything outside the subtree at its
root, except for making the root's own missing parent directories
(`FileTree.Confined`). Moving a file onto the disk also removes the source it
came from, wherever that is.

`resolve_eq` gives the resolution of every path, and
`disk_operations_stay_under_root` gathers the statements about files.
-/

namespace ReportExport

/-- A computation that succeeded through a bind: the value the first part gave
and what the rest made of it. -/
theorem except_bind_eq_ok {ε α β : Type} {x : Except ε α} {f : α → Except ε β} {b : β}
    (h : (x >>= f) = .ok b) : ∃ a, x = .ok a ∧ f a = .ok b := by
  cases x with
  | error e => cases h
  | ok a => exact ⟨a, rfl, h⟩

@[simp] theorem liftIo_eq_ok {α : Type} {r : Except OsError α} {a : α} :
    liftIo r = .ok a ↔ r = .ok a := by
  cases r <;> simp [liftIo, Except.mapError]

namespace FileTree

/-! ## Regions a call may change -/

/-- `t'` holds at every path outside `region` what `t` holds there. -/
def ChangesOnly (region : TreePath → Prop) (t t' : FileTree) : Prop :=
  ∀ q, ¬ region q → t'.node? q = t.node? q

/-- `t'` holds what `t` holds, except directories made where nothing stood at
paths on the way down to `p`. -/
def MakesDirsAlong (p : TreePath) (t t' : FileTree) : Prop :=
  ∀ q, t'.node? q = t.node? q ∨ (q <+: p ∧ t.node? q = none ∧ t'.node? q = some .directory)

/-- Outside the subtree at `root` and the paths of `also`, `t'` holds what `t`
holds, except directories made where nothing stood on the way down to
`root`. -/
def Confined (root : TreePath) (also : TreePath → Prop) (t t' : FileTree) : Prop :=
  ∀ q, ¬ root <+: q → ¬ also q →
    t'.node? q = t.node? q ∨ (q <+: root ∧ t.node? q = none ∧ t'.node? q = some .directory)

variable {t t₁ t₂ t' : FileTree} {p q source target : TreePath}
  {region region' : TreePath → Prop}

theorem ChangesOnly.refl : ChangesOnly region t t := fun _ _ => rfl

theorem ChangesOnly.trans (first : ChangesOnly region t t₁) (second : ChangesOnly region t₁ t₂) :
    ChangesOnly region t t₂ :=
  fun q outside => (second q outside).trans (first q outside)

theorem ChangesOnly.mono (wider : ∀ q, region q → region' q) (h : ChangesOnly region t t') :
    ChangesOnly region' t t' :=
  fun q outside => h q (fun inside => outside (wider q inside))

theorem MakesDirsAlong.refl : MakesDirsAlong p t t := fun _ => .inl rfl

theorem MakesDirsAlong.mono {p' : TreePath} (shorter : p <+: p') (h : MakesDirsAlong p t t') :
    MakesDirsAlong p' t t' := by
  intro q
  rcases h q with same | ⟨along, absent, made⟩
  · exact .inl same
  · exact .inr ⟨along.trans shorter, absent, made⟩

theorem MakesDirsAlong.trans (first : MakesDirsAlong p t t₁) (second : MakesDirsAlong p t₁ t₂) :
    MakesDirsAlong p t t₂ := by
  intro q
  rcases first q with same₁ | ⟨along, absent, made⟩ <;> rcases second q with same₂ | ⟨along₂, absent₂, made₂⟩
  · exact .inl (same₂.trans same₁)
  · exact .inr ⟨along₂, same₁ ▸ absent₂, made₂⟩
  · exact .inr ⟨along, absent, same₂.trans made⟩
  · -- a directory made in the first step is not missing in the second
    rw [made] at absent₂
    cases absent₂

theorem Confined.trans {also : TreePath → Prop} (first : Confined p also t t₁)
    (second : Confined p also t₁ t₂) : Confined p also t t₂ := by
  intro q outside away
  rcases first q outside away with same₁ | ⟨along, absent, made⟩ <;>
    rcases second q outside away with same₂ | ⟨along₂, absent₂, made₂⟩
  · exact .inl (same₂.trans same₁)
  · exact .inr ⟨along₂, same₁ ▸ absent₂, made₂⟩
  · exact .inr ⟨along, absent, same₂.trans made⟩
  · rw [made] at absent₂
    cases absent₂

/-- A change inside the subtree at `root` and the paths of `also` is confined. -/
theorem ChangesOnly.confined {also : TreePath → Prop}
    (h : ChangesOnly (fun q => p <+: q ∨ also q) t t') : Confined p also t t' :=
  fun q outside away => .inl (h q (by rintro (below | moved) <;> contradiction))

/-- Directories made on the way down to a path below `root` are made below it,
or on the way down to `root` itself. -/
theorem MakesDirsAlong.confined {also : TreePath → Prop} {target : TreePath}
    (h : MakesDirsAlong target t t') (below : p <+: target) : Confined p also t t' := by
  intro q outside _
  rcases h q with same | ⟨along, absent, made⟩
  · exact .inl same
  · rcases List.prefix_or_prefix_of_prefix along below with above | under
    · exact .inr ⟨above, absent, made⟩
    · exact absurd under outside

/-! ## Entries -/

theorem node?_nil : t.node? [] = some .directory := rfl

theorem node?_of_ne_nil (h : q ≠ []) :
    t.node? q = (t.entries.find? (fun e => e.1 == q)).map Prod.snd := by
  simp [node?, h]

/-- Rewriting entries in place, keeping their paths, finds at a path what was
found there when the entries at that path are kept as they were. -/
theorem find?_map_keys {l : List (TreePath × FileNode)} {f : TreePath × FileNode → TreePath × FileNode}
    (keeps : ∀ e, (f e).1 = e.1) (fixes : ∀ e, e.1 = q → f e = e) :
    (l.map f).find? (fun e => e.1 == q) = l.find? (fun e => e.1 == q) := by
  rw [List.find?_map]
  have same : ((fun e : TreePath × FileNode => e.1 == q) ∘ f) = (fun e => e.1 == q) := by
    funext e
    simp [keeps]
  rw [same]
  cases found : l.find? (fun e => e.1 == q) with
  | none => rfl
  | some e =>
    have at_q := List.find?_some found
    simp only [beq_iff_eq] at at_q
    simp [fixes e at_q]

theorem find?_append_of_none {l₁ l₂ : List (TreePath × FileNode)} {test : TreePath × FileNode → Bool}
    (none : ∀ e ∈ l₂, test e = false) : (l₁ ++ l₂).find? test = l₁.find? test := by
  have absent : l₂.find? test = Option.none := List.find?_eq_none.mpr fun e mem => by simp [none e mem]
  rw [List.find?_append, absent, Option.or_none]

/-- The entry a put rewrites in place. -/
def putEntry (p : TreePath) (n : FileNode) (e : TreePath × FileNode) : TreePath × FileNode :=
  if e.1 == p then (p, n) else e

theorem put_eq (p : TreePath) (n : FileNode) : t.put p n =
    if t.entries.any (fun e => e.1 == p) then { entries := t.entries.map (putEntry p n) }
    else { entries := t.entries ++ [(p, n)] } := rfl

theorem putEntry_fst (n : FileNode) (e : TreePath × FileNode) : (putEntry p n e).1 = e.1 := by
  unfold putEntry
  split
  · next same => exact (beq_iff_eq.mp same).symm
  · rfl

/-- Setting the node at a path changes nothing elsewhere. -/
theorem node?_put (n : FileNode) (other : q ≠ p) : (t.put p n).node? q = t.node? q := by
  by_cases root : q = []
  · simp [root, node?_nil]
  rw [node?_of_ne_nil root, node?_of_ne_nil root, put_eq]
  split
  · -- entries at `p` are rewritten in place, and none of them is at `q`
    rw [find?_map_keys (putEntry_fst n) fun e at_q => by simp [putEntry, at_q, other]]
  · simp [List.find?_append, Ne.symm other]

/-- After a put the path holds the node put there. -/
theorem node?_put_self (n : FileNode) (root : p ≠ []) : (t.put p n).node? p = some n := by
  rw [node?_of_ne_nil root, put_eq]
  split
  · next present =>
    obtain ⟨e, found⟩ := Option.isSome_iff_exists.mp (List.find?_isSome.mpr (List.any_eq_true.mp present))
    have at_p := List.find?_some found
    simp only [beq_iff_eq] at at_p
    rw [List.find?_map, show ((fun e : TreePath × FileNode => e.1 == p) ∘ putEntry p n) = (fun e => e.1 == p)
      from funext fun e => by simp [putEntry_fst], found]
    simp [putEntry, at_p]
  · next absent =>
    have none : t.entries.find? (fun e => e.1 == p) = none := by
      rw [List.find?_eq_none]
      intro e mem at_p
      exact absent (List.any_eq_true.mpr ⟨e, mem, at_p⟩)
    simp [List.find?_append, none]

theorem changesOnly_put (n : FileNode) : ChangesOnly (· = p) t (t.put p n) :=
  fun _ other => node?_put n other

/-- Erasing a subtree changes nothing outside it. -/
theorem changesOnly_erase : ChangesOnly (p <+: ·) t (t.erase p) := by
  intro q outside
  by_cases root : q = []
  · simp [root, node?_nil]
  rw [node?_of_ne_nil root, node?_of_ne_nil root]
  congr 1
  simp only [erase, List.find?_filter]
  congr 1
  funext e
  by_cases at_q : e.1 = q
  · have kept : ¬ p <+: e.1 := at_q ▸ outside
    simp [at_q, ← List.isPrefixOf_iff_prefix] at kept ⊢
    exact kept
  · simp [at_q]

/-! ## The system calls -/

theorem mkdir_eq_ok (h : t.mkdir p = .ok t') : t.node? p = none ∧ t' = t.put p .directory := by
  obtain ⟨_, -, rest⟩ := except_bind_eq_ok h
  split at rest
  · cases rest
  · next absent => exact ⟨absent, (Except.ok.inj rest).symm⟩

theorem makesDirsAlong_mkdir (h : t.mkdir p = .ok t') : MakesDirsAlong p t t' := by
  obtain ⟨absent, rfl⟩ := mkdir_eq_ok h
  intro q
  by_cases same : q = p
  · subst same
    by_cases root : q = []
    · simp [root, node?_nil]
    -- the path had nothing, and now holds the directory
    exact .inr ⟨List.prefix_refl q, absent, node?_put_self _ root⟩
  · exact .inl (node?_put _ same)

/-- Making a directory and its parents only makes directories where nothing
stood, on the way down to the path. -/
theorem makesDirsAlong_createDirAll (h : t.createDirAll p = .ok t') : MakesDirsAlong p t t' := by
  unfold createDirAll at h
  generalize p.length + 1 = fuel at h
  induction fuel generalizing p t t' with
  | zero =>
    cases h
    exact MakesDirsAlong.refl
  | succ fuel ih =>
    simp only [createDirAll.go] at h
    split at h
    · cases h
      exact MakesDirsAlong.refl
    split at h
    · next made => cases h; exact makesDirsAlong_mkdir made
    · -- a missing parent: the parents first, then the directory itself
      obtain ⟨t₁, parents, rest⟩ := except_bind_eq_ok h
      have up : MakesDirsAlong p t t₁ := (ih parents).mono (List.dropLast_prefix p)
      split at rest
      · next made => cases rest; exact up.trans (makesDirsAlong_mkdir made)
      · split at rest
        · cases rest
          exact up
        · cases rest
    · split at h
      · cases h
        exact MakesDirsAlong.refl
      · cases h

theorem eq_put_of_writeFile {contents : String} (h : t.writeFile p contents = .ok t') :
    t' = t.put p (.file contents) := by
  obtain ⟨_, -, rest⟩ := except_bind_eq_ok h
  split at rest
  · cases rest
  · exact (Except.ok.inj rest).symm

theorem changesOnly_writeFile {contents : String} (h : t.writeFile p contents = .ok t') :
    ChangesOnly (· = p) t t' := by
  rw [eq_put_of_writeFile h]
  exact changesOnly_put _

theorem changesOnly_copy (h : t.copy source target = .ok t') : ChangesOnly (· = target) t t' := by
  obtain ⟨_, -, written⟩ := except_bind_eq_ok h
  exact changesOnly_writeFile written

theorem changesOnly_removeFile (h : t.removeFile p = .ok t') : ChangesOnly (p <+: ·) t t' := by
  obtain ⟨_, -, rest⟩ := except_bind_eq_ok h
  split at rest
  · cases rest
  · cases rest
    exact changesOnly_erase

/-- Renaming changes only the subtrees at the source and at the target: the
target's is replaced by the source's, moved. -/
theorem changesOnly_rename (h : t.rename source target = .ok t') :
    ChangesOnly (fun q => source <+: q ∨ target <+: q) t t' := by
  obtain ⟨_, -, walked⟩ := except_bind_eq_ok h
  obtain ⟨_, -, rest⟩ := except_bind_eq_ok walked
  split at rest
  · cases rest
  · cases rest
  · split at rest
    · cases rest
      exact ChangesOnly.refl
    · cases rest
      intro q outside
      have away : ¬ source <+: q := fun below => outside (.inl below)
      have off : ¬ target <+: q := fun below => outside (.inr below)
      by_cases root : q = []
      · simp [root, node?_nil]
      have kept : ((t.erase target).erase source).node? q = t.node? q :=
        (changesOnly_erase q away).trans (changesOnly_erase q off)
      rw [node?_of_ne_nil root (t := (t.erase target).erase source)] at kept
      rw [node?_of_ne_nil root, find?_append_of_none ?moved]
      · exact kept
      -- the moved entries all lie below the target, so none is at `q`
      case moved =>
        intro e mem
        obtain ⟨⟨from_, n⟩, -, rfl⟩ := List.mem_map.mp mem
        simp only [beq_eq_false_iff_ne]
        exact fun at_q => off (at_q ▸ List.prefix_append _ _)

end FileTree

namespace FilesystemDisk

/-! ## Resolving paths -/

/-- The segments of a path that name something: neither empty nor `.`. -/
def named (path : String) : List String :=
  (path.splitOn "/").filter (fun s => s ≠ "" ∧ s ≠ ".")

theorem components_eq (path : String) :
    components path = if ".." ∈ path.splitOn "/" then none else some (named path) := by
  have keep : (path.splitOn "/").filter (fun s => !s.isEmpty && s != ".") = named path := by
    unfold named
    congr 1
    funext s
    by_cases empty : s = "" <;> by_cases dot : s = "." <;> simp [empty, dot]
  have parent : ".." ∈ named path ↔ ".." ∈ path.splitOn "/" := by
    simp [named, List.mem_filter]
  unfold components
  rw [keep]
  by_cases dotdot : ".." ∈ path.splitOn "/"
  · simp [dotdot, parent.mpr dotdot]
  · simp only [dotdot, List.contains_iff_mem, if_false]
    exact if_neg fun h => dotdot (parent.mp h)

variable (d : FilesystemDisk) (path : String)

/-- A path resolves exactly when no segment is `..`, to the root followed by
the segments that name something. -/
theorem resolve_eq : d.resolve path =
    if ".." ∈ path.splitOn "/" then .error (.invalidPath path) else .ok (d.root ++ named path) := by
  by_cases dotdot : ".." ∈ path.splitOn "/" <;> simp [resolve, components_eq, dotdot]

/-- A file path is a resolved path that is not the root. -/
theorem filePath_eq_ok_iff {r : TreePath} :
    d.filePath path = .ok r ↔ d.resolve path = .ok r ∧ r ≠ d.root := by
  unfold filePath
  cases resolved : d.resolve path with
  | error e =>
    constructor
    · intro refused
      cases refused
    · rintro ⟨found, -⟩
      cases found
  | ok p =>
    show (if (p == d.root) = true then throw (StorageError.invalidPath path) else pure p) = Except.ok r ↔ _
    by_cases root : p = d.root
    · rw [if_pos (beq_iff_eq.mpr root)]
      constructor
      · intro refused
        cases refused
      · rintro ⟨same, not_root⟩
        exact absurd ((Except.ok.inj same) ▸ root) not_root
    · rw [if_neg (by simpa using root)]
      constructor
      · intro found
        cases found
        exact ⟨rfl, root⟩
      · rintro ⟨same, -⟩
        exact same

theorem filePath_root (h : d.resolve path = .ok d.root) :
    d.filePath path = .error (.invalidPath path) := by
  simp [filePath, h, bind, Except.bind, throw, throwThe, MonadExceptOf.throw]

/-- A file path lies strictly below the root. -/
theorem filePath_below {r : TreePath} (h : d.filePath path = .ok r) :
    ∃ parts, parts ≠ [] ∧ r = d.root ++ parts := by
  obtain ⟨resolved, not_root⟩ := (filePath_eq_ok_iff d path).mp h
  rw [resolve_eq] at resolved
  split at resolved
  · cases resolved
  · cases resolved
    exact ⟨named path, fun empty => not_root (by simp [empty]), rfl⟩

/-! ## Operations -/

variable {d path} {t t' : FileTree}

/-- Whether something is at a path is asked of the resolved path, at or below
the root. -/
theorem exists?_below {b : Bool} (h : d.exists? t path = .ok b) :
    ∃ r, d.root <+: r ∧ t.exists? r = .ok b := by
  obtain ⟨r, resolved, answered⟩ := except_bind_eq_ok h
  rw [resolve_eq] at resolved
  split at resolved
  · cases resolved
  · cases resolved
    exact ⟨_, List.prefix_append _ _, liftIo_eq_ok.mp answered⟩

theorem makeDirectory_confined (h : d.makeDirectory t path = .ok t') :
    FileTree.Confined d.root (fun _ => False) t t' := by
  obtain ⟨r, resolved, made⟩ := except_bind_eq_ok h
  rw [resolve_eq] at resolved
  split at resolved
  · cases resolved
  · cases resolved
    exact (FileTree.makesDirsAlong_createDirAll (liftIo_eq_ok.mp made)).confined (List.prefix_append _ _)

/-- The directory of a file below the root, and the staging file beside it, lie
at or below the root. -/
theorem below_root_of_filePath {dest : TreePath} (h : d.filePath path = .ok dest) :
    d.root <+: dest ∧ d.root <+: dest.dropLast ∧ ∀ t : FileTree, d.root <+: stagingPath t dest := by
  obtain ⟨parts, full, rfl⟩ := filePath_below d path h
  have parent : d.root <+: (d.root ++ parts).dropLast := by
    rw [List.dropLast_append_of_ne_nil full]
    exact List.prefix_append _ _
  exact ⟨List.prefix_append _ _, parent, fun _ => parent.trans (List.prefix_append _ _)⟩

theorem settle_eq_ok {staging dest : TreePath} (h : settle t staging dest = .ok t') :
    t.rename staging dest = .ok t' := by
  unfold settle at h
  split at h
  · next renamed => cases h; exact renamed
  · cases h

/-- Moving the staging file onto a destination below the root changes only
the subtree at the root. -/
theorem settle_confined {also : TreePath → Prop} {staging dest : TreePath}
    (staged : d.root <+: staging) (placed : d.root <+: dest) (h : settle t staging dest = .ok t') :
    FileTree.Confined d.root also t t' :=
  FileTree.ChangesOnly.confined ((FileTree.changesOnly_rename (settle_eq_ok h)).mono
    fun _ below => .inl (below.elim staged.trans placed.trans))

theorem put_confined {contents : String} (h : d.put t path contents = .ok t') :
    FileTree.Confined d.root (fun _ => False) t t' := by
  obtain ⟨dest, found, rest⟩ := except_bind_eq_ok h
  obtain ⟨placed, parent, staged⟩ := below_root_of_filePath found
  obtain ⟨t₁, parents, rest⟩ := except_bind_eq_ok rest
  obtain ⟨t₂, written, settled⟩ := except_bind_eq_ok rest
  have dirs : FileTree.Confined d.root (fun _ => False) t t₁ := FileTree.MakesDirsAlong.confined
    (FileTree.makesDirsAlong_createDirAll (liftIo_eq_ok.mp parents)) parent
  have write : FileTree.Confined d.root (fun _ => False) t₁ t₂ := FileTree.ChangesOnly.confined
    ((FileTree.changesOnly_writeFile (liftIo_eq_ok.mp written)).mono fun q at_staging => .inl (by rw [at_staging]; exact staged _))
  exact dirs.trans (write.trans (settle_confined (staged _) placed settled))

/-- Moving a file onto the disk changes nothing outside the subtree at the root
but the source it moved. -/
theorem putFile_confined {source : TreePath} {sameDevice : Bool}
    (h : d.putFile t path source sameDevice = .ok t') :
    FileTree.Confined d.root (source <+: ·) t t' := by
  obtain ⟨dest, found, rest⟩ := except_bind_eq_ok h
  obtain ⟨placed, parent, staged⟩ := below_root_of_filePath found
  obtain ⟨t₁, parents, rest⟩ := except_bind_eq_ok rest
  have dirs : FileTree.Confined d.root (source <+: ·) t t₁ := FileTree.MakesDirsAlong.confined
    (FileTree.makesDirsAlong_createDirAll (liftIo_eq_ok.mp parents)) parent
  refine dirs.trans ?_
  split at rest
  · -- the rename went through
    next renamed =>
    cases rest
    split at renamed
    · exact FileTree.ChangesOnly.confined ((FileTree.changesOnly_rename renamed).mono
        fun _ below => below.elim .inr (fun under => .inl (placed.trans under)))
    · cases renamed
  · -- copied through the staging file, then the source removed
    obtain ⟨t₂, copied, rest⟩ := except_bind_eq_ok rest
    obtain ⟨t₃, settled, rest⟩ := except_bind_eq_ok rest
    cases rest
    have copy : FileTree.Confined d.root (source <+: ·) t₁ t₂ := FileTree.ChangesOnly.confined
      ((FileTree.changesOnly_copy (liftIo_eq_ok.mp copied)).mono fun q at_staging => .inl (by rw [at_staging]; exact staged _))
    have moved : FileTree.Confined d.root (source <+: ·) t₃ ((t₃.removeFile source).toOption.getD t₃) := by
      cases removed : t₃.removeFile source with
      | error e => exact FileTree.ChangesOnly.confined FileTree.ChangesOnly.refl
      | ok t₄ => exact FileTree.ChangesOnly.confined ((FileTree.changesOnly_removeFile removed).mono fun _ => .inr)
    exact copy.trans ((settle_confined (staged _) placed settled).trans moved)

theorem delete_confined (h : d.delete t path = .ok t') :
    FileTree.Confined d.root (fun _ => False) t t' := by
  obtain ⟨p, found, rest⟩ := except_bind_eq_ok h
  obtain ⟨placed, -, -⟩ := below_root_of_filePath found
  split at rest
  · next removed =>
    cases rest
    exact FileTree.ChangesOnly.confined ((FileTree.changesOnly_removeFile removed).mono
      fun _ below => .inl (placed.trans below))
  · cases rest
    exact FileTree.ChangesOnly.confined FileTree.ChangesOnly.refl
  · cases rest

end FilesystemDisk

open FilesystemDisk in
/-- A disk path resolves, when it has no `..` segment, to the root followed by
its segments that name something; a file path is such a path strictly below the
root; and making a directory, writing, moving a file in and deleting change
nothing outside the subtree at the root, but the root's own missing parents and
the source of a moved file. -/
theorem disk_operations_stay_under_root (d : FilesystemDisk) (path : String) :
    d.resolve path =
        (if ".." ∈ path.splitOn "/" then .error (.invalidPath path) else .ok (d.root ++ named path)) ∧
      (∀ r, d.filePath path = .ok r ↔ d.resolve path = .ok r ∧ r ≠ d.root) ∧
      (d.resolve path = .ok d.root → d.filePath path = .error (.invalidPath path)) ∧
      (∀ r, d.filePath path = .ok r → ∃ parts, parts ≠ [] ∧ r = d.root ++ parts) ∧
      (∀ t b, d.exists? t path = .ok b → ∃ r, d.root <+: r ∧ t.exists? r = .ok b) ∧
      (∀ t t', d.makeDirectory t path = .ok t' → FileTree.Confined d.root (fun _ => False) t t') ∧
      (∀ t contents t', d.put t path contents = .ok t' → FileTree.Confined d.root (fun _ => False) t t') ∧
      (∀ t source sameDevice t', d.putFile t path source sameDevice = .ok t' →
        FileTree.Confined d.root (source <+: ·) t t') ∧
      (∀ t t', d.delete t path = .ok t' → FileTree.Confined d.root (fun _ => False) t t') :=
  ⟨resolve_eq d path, fun _ => filePath_eq_ok_iff d path, filePath_root d path,
    fun _ => filePath_below d path, fun _ _ => exists?_below, fun _ _ => makeDirectory_confined, fun _ _ _ => put_confined,
    fun _ _ _ _ => putFile_confined, fun _ _ => delete_confined⟩

/-- The path `./` resolves to the root itself, so it names no file. -/
theorem dot_path_names_no_file :
    (⟨"local", ["srv"]⟩ : FilesystemDisk).resolve "./" = .ok ["srv"] ∧
      (⟨"local", ["srv"]⟩ : FilesystemDisk).filePath "./" = .error (.invalidPath "./") :=
  have resolved : (⟨"local", ["srv"]⟩ : FilesystemDisk).resolve "./" = .ok ["srv"] := by
    have segments : "./".splitOn "/" = [".", ""] := by cbv
    simp [FilesystemDisk.resolve_eq, FilesystemDisk.named, segments]
  ⟨resolved, (disk_operations_stay_under_root _ "./").2.2.1 resolved⟩

end ReportExport
