import ReportExport.Proofs.Storage.Confinement
import ReportExport.Proofs.Text.Fresh

/-!
# What the file tree holds after a call

`Proofs.Storage.Confinement` bounds where a call may change the tree; this
module says what the changed paths hold. Erasing a subtree leaves nothing in
it (`node?_erase`); a rename puts at every path below the target what stood
at the matching path below the source (`node?_rename`); writing a file puts
its contents at its path. `FileTree.fileAt` reads the contents of a file, and
making directories never changes one (`MakesDirsAlong.fileAt`).

A tree is well formed when everything in it hangs from directories all the
way down (`FileTree.WellFormed`), as on a real file system. The calls keep
it so (`WellFormed.createDirAll`, `WellFormed.writeFile`,
`WellFormed.erase`, and `WellFormed.rename` for a file), and in a well-formed
tree nothing lies below a file.
-/

namespace ReportExport

namespace FileTree

variable {t t' : FileTree} {p q r source target : TreePath}

/-! ## Files -/

/-- The contents of the file at a path, if a file is there. -/
def fileAt (t : FileTree) (p : TreePath) : Option String :=
  match t.node? p with
  | some (.file c) => some c
  | _ => none

theorem fileAt_eq_some_iff {c : String} : t.fileAt p = some c ↔ t.node? p = some (.file c) := by
  unfold fileAt
  rcases t.node? p with _ | _ | _ <;> simp

theorem fileAt_congr (same : t'.node? q = t.node? q) : t'.fileAt q = t.fileAt q := by
  simp only [fileAt, same]

/-- Making directories where nothing stood changes no file. -/
theorem MakesDirsAlong.fileAt (made : MakesDirsAlong p t t') (q : TreePath) : t'.fileAt q = t.fileAt q := by
  rcases made q with same | ⟨-, absent, dir⟩
  · exact fileAt_congr same
  · simp [FileTree.fileAt, absent, dir]

/-! ## Fresh names -/

/-- An entry stands at a path below the base only where the tree has that path. -/
theorem mem_paths {n : FileNode} (found : t.node? q = some n) (root : q ≠ []) : q ∈ t.paths := by
  rw [node?_of_ne_nil root] at found
  obtain ⟨entry, first, -⟩ := Option.map_eq_some_iff.mp found
  have at_q : entry.1 = q := by simpa using List.find?_some first
  exact List.mem_map.mpr ⟨entry, List.mem_of_find?_eq_some first, at_q⟩

section Fresh

variable {dir : TreePath} {name : Nat → String} {avoid : List TreePath} {start : Nat}

/-- The path of a fresh name leads to no path of the tree and to none of the
paths to avoid, when the candidate names are distinct. -/
theorem freshName_free (distinct : ∀ k j, name k = name j → k = j) :
    ∀ q ∈ t.paths ++ avoid, ¬ dir ++ [t.freshName dir name avoid start] <+: q := by
  -- a path has one candidate at most on its way: two would be one prefix of the other
  have free := free_firstFree (fun k => (t.paths ++ avoid).all fun q => !(dir ++ [name k]).isPrefixOf q)
    (fun k q => dir ++ [name k] <+: q) (t.paths ++ avoid) start (fun k => by simp [Bool.eq_false_iff, List.isPrefixOf_iff_prefix, or_imp, forall_and])
    fun q _ k j hk hj => distinct k j (by
      have same := (List.prefix_of_prefix_length_le hk hj (by simp)).eq_of_length (by simp)
      simpa using same)
  simpa [freshName, Bool.eq_false_iff, List.isPrefixOf_iff_prefix, or_imp, forall_and] using free

/-- Nothing stands at or below the path of a fresh name. -/
theorem node?_freshName (distinct : ∀ k j, name k = name j → k = j)
    (below : dir ++ [t.freshName dir name avoid start] <+: q) : t.node? q = none := by
  cases found : t.node? q with
  | none => rfl
  | some n =>
    have root : q ≠ [] := fun empty => by simp [empty] at below
    exact absurd below (freshName_free distinct q (List.mem_append_left _ (mem_paths found root)))

end Fresh

/-! ## Erasing and renaming -/

/-- An erased tree has no entry in the erased subtree. -/
theorem find?_erase_below (below : p <+: q) : (t.erase p).entries.find? (fun e => e.1 == q) = none := by
  rw [List.find?_eq_none]
  intro e mem at_q
  have kept := (List.mem_filter.mp mem).2
  rw [beq_iff_eq.mp at_q, List.isPrefixOf_iff_prefix.mpr below] at kept
  cases kept

/-- Nothing is left in an erased subtree. -/
theorem node?_erase_below (below : p <+: q) (root : q ≠ []) : (t.erase p).node? q = none := by
  rw [node?_of_ne_nil root, find?_erase_below below]
  rfl

theorem node?_erase (root : q ≠ []) : (t.erase p).node? q = if p <+: q then none else t.node? q := by
  split
  · exact node?_erase_below ‹_› root
  · exact changesOnly_erase q ‹_›

/-- Whether an entry moved by a rename lands at `q`: it lies below the source
at the place `q` lies below the target. -/
theorem moved_at_iff (source : TreePath) (under : target <+: q) (k : TreePath) :
    (source.isPrefixOf k && (target ++ k.drop source.length == q)) = (k == source ++ q.drop target.length) := by
  obtain ⟨rest, rfl⟩ := under
  rw [List.drop_left]
  by_cases own : source <+: k
  · obtain ⟨tail, rfl⟩ := own
    simp [List.isPrefixOf_iff_prefix.mpr (List.prefix_append source tail)]
  · have unmoved : source.isPrefixOf k = false := by
      simpa [← List.isPrefixOf_iff_prefix] using own
    have elsewhere : (k == source ++ rest) = false := by
      rw [beq_eq_false_iff_ne]
      rintro rfl
      exact own (List.prefix_append source rest)
    rw [unmoved, elsewhere, Bool.false_and]

/-- The entries a rename moves: those below the source, put below the target. -/
def moved (source target : TreePath) (l : List (TreePath × FileNode)) : List (TreePath × FileNode) :=
  (l.filter fun e => source.isPrefixOf e.1).map fun e => (target ++ e.1.drop source.length, e.2)

/-- The first moved entry at `q` is the first entry at the matching path
below the source, when `q` lies below the target; otherwise there is none. -/
theorem find?_moved (l : List (TreePath × FileNode)) :
    (moved source target l).find? (fun e => e.1 == q) =
      if target <+: q then (l.find? fun e => e.1 == source ++ q.drop target.length).map
        (fun e => (target ++ e.1.drop source.length, e.2))
      else none := by
  split
  · next under =>
    induction l with
    | nil => rfl
    | cons e l ih =>
      rcases e with ⟨k, n⟩
      have lands := moved_at_iff source under k
      unfold moved at ih ⊢
      by_cases own : source.isPrefixOf k = true
      · by_cases at_q : (k == source ++ q.drop target.length) = true
        · simp only [own, Bool.true_and] at lands
          simp [own, lands, at_q]
        · simp only [own, Bool.true_and] at lands
          simp only [List.filter_cons, own, if_true, List.map_cons, List.find?_cons, lands, at_q, ih]
      · have at_q : (k == source ++ q.drop target.length) = false := by
          rw [← lands]
          simp [own]
        simp [own, ih, at_q]
  · next away =>
    refine List.find?_eq_none.mpr fun e mem at_q => away ?_
    obtain ⟨⟨k, n⟩, -, rfl⟩ := List.mem_map.mp mem
    rw [← beq_iff_eq.mp at_q]
    exact List.prefix_append _ _

theorem rename_moves (h : t.rename source target = .ok t') (apart : source ≠ target) :
    t'.entries = ((t.erase target).erase source).entries ++ moved source target t.entries := by
  obtain ⟨_, -, walked⟩ := except_bind_eq_ok h
  obtain ⟨_, -, rest⟩ := except_bind_eq_ok walked
  split at rest
  · cases rest
  · cases rest
  · rw [if_neg (by simpa using apart)] at rest
    cases rest
    rfl

theorem rename_self (h : t.rename source source = .ok t') : t' = t := by
  obtain ⟨_, -, walked⟩ := except_bind_eq_ok h
  obtain ⟨_, -, rest⟩ := except_bind_eq_ok walked
  split at rest
  · cases rest
  · cases rest
  · rw [if_pos (beq_self_eq_true source)] at rest
    exact (Except.ok.inj rest).symm

/-- After a rename the target's subtree holds what the source's held, the
source's subtree holds nothing, and everything else is as it was. -/
theorem node?_rename (h : t.rename source target = .ok t') (named : source ≠ []) (root : q ≠ []) :
    t'.node? q = if target <+: q then t.node? (source ++ q.drop target.length)
      else if source <+: q then none else t.node? q := by
  by_cases same : source = target
  · -- a rename onto itself leaves the tree
    subst same
    rw [rename_self h]
    by_cases under : source <+: q
    · rw [if_pos under, List.prefix_iff_eq_append.mp under]
    · rw [if_neg under, if_neg under]
  have moved_root : source ++ q.drop target.length ≠ [] := by simp [named]
  rw [node?_of_ne_nil root, rename_moves h same, List.find?_append, find?_moved]
  by_cases under : target <+: q
  · -- below the target only moved entries are found
    have gone : ((t.erase target).erase source).entries.find? (fun e => e.1 == q) = none := by
      rw [List.find?_eq_none]
      intro e mem at_q
      have kept := (List.mem_filter.mp (List.mem_filter.mp mem).1).2
      rw [beq_iff_eq.mp at_q, List.isPrefixOf_iff_prefix.mpr under] at kept
      cases kept
    rw [if_pos under, if_pos under, gone, Option.none_or, Option.map_map, node?_of_ne_nil moved_root]
    rfl
  · rw [if_neg under, if_neg under, Option.or_none, ← node?_of_ne_nil root, node?_erase root, node?_erase root,
      if_neg under]

/-! ## Walking down a path -/

theorem forM_eq_ok {l : List Nat} {f : Nat → Except OsError Unit} :
    l.forM f = .ok () ↔ ∀ i ∈ l, f i = .ok () := by
  induction l with
  | nil => exact ⟨fun _ _ none => (nomatch none), fun _ => rfl⟩
  | cons i l ih =>
    show (f i >>= fun _ => l.forM f) = .ok () ↔ _
    cases h : f i with
    | error e =>
      refine ⟨fun failed => (nomatch failed), fun all => ?_⟩
      rw [all i List.mem_cons_self] at h
      cases h
    | ok u =>
      show l.forM f = .ok () ↔ _
      rw [ih]
      exact ⟨fun rest j mem => (List.mem_cons.mp mem).elim (fun same => same ▸ h) (rest j),
        fun all j mem => all j (List.mem_cons_of_mem i mem)⟩

/-- A walk down a path succeeds exactly when every path above it holds a
directory. -/
theorem walk_eq_ok_iff : t.walk p = .ok () ↔ ∀ k < p.length, t.node? (p.take k) = some .directory := by
  unfold walk
  rw [forM_eq_ok]
  refine forall_congr' fun k => ?_
  rw [List.mem_range]
  refine imp_congr_right fun _ => ?_
  split <;> simp_all

theorem walk_of_metadata {n : FileNode} (h : t.metadata p = .ok n) : t.walk p = .ok () ∧ t.node? p = some n := by
  obtain ⟨u, walked, rest⟩ := except_bind_eq_ok h
  split at rest
  · cases rest
    exact ⟨walked, ‹_›⟩
  · cases rest

/-! ## Well-formed trees -/

/-- Everything in the tree hangs from directories all the way down: every
path above one that holds something holds a directory. -/
def WellFormed (t : FileTree) : Prop :=
  ∀ q, (t.node? q).isSome → ∀ k < q.length, t.node? (q.take k) = some .directory

theorem wellFormed_empty : ({} : FileTree).WellFormed := by
  intro q held k _
  by_cases root : q = []
  · simp [root] at *
  · simp [node?_of_ne_nil root] at held

/-- Something in a well-formed tree can be walked down to. -/
theorem WellFormed.walk (wf : t.WellFormed) (held : (t.node? q).isSome) : t.walk q = .ok () :=
  walk_eq_ok_iff.mpr (wf q held)

/-- Nothing lies below anything but a directory of a well-formed tree. -/
theorem WellFormed.below_of_ne_directory (wf : t.WellFormed) (notDir : t.node? p ≠ some .directory)
    (below : p <+: q) (other : q ≠ p) : t.node? q = none := by
  cases held : t.node? q with
  | none => rfl
  | some n =>
    obtain ⟨rest, rfl⟩ := below
    have longer : p.length < (p ++ rest).length := by
      have : rest ≠ [] := fun empty => other (by simp [empty])
      simp [List.length_pos_iff.mpr this]
    have dir := wf _ (by simp [held]) p.length longer
    rw [List.take_left] at dir
    exact absurd dir notDir

/-- Nothing lies below a file of a well-formed tree. -/
theorem WellFormed.below_file (wf : t.WellFormed) {c : String} (file : t.node? p = some (.file c))
    (below : p <+: q) (other : q ≠ p) : t.node? q = none :=
  wf.below_of_ne_directory (by rw [file]; exact fun same => nomatch same) below other

/-- A proper prefix is shorter. -/
theorem strict_length (below : p <+: q) (other : p ≠ q) : p.length < q.length :=
  Nat.lt_of_le_of_ne below.length_le fun same => other (below.eq_of_length same)

/-- Putting a node where the path above is all directories keeps the tree
well formed, unless a file replaces a directory. -/
theorem WellFormed.put (wf : t.WellFormed) (walked : t.walk p = .ok ()) {n : FileNode}
    (keeps : t.node? p = some .directory → n = .directory) : (t.put p n).WellFormed := by
  have above := walk_eq_ok_iff.mp walked
  intro q held k short
  by_cases root : q.take k = []
  · rw [root]
    rfl
  by_cases same : q = p
  · subst same
    rw [node?_put n (fun eq => by have := congrArg List.length eq; simp at this; omega)]
    exact above k short
  · have before : (t.node? q).isSome := by rwa [node?_put n same] at held
    by_cases at_p : q.take k = p
    · -- the put lands above something that was there: a directory stays one
      have dir : t.node? p = some .directory := at_p ▸ wf q before k short
      rw [at_p, node?_put_self n (at_p ▸ root), keeps dir]
    · rw [node?_put n at_p]
      exact wf q before k short

theorem WellFormed.erase (wf : t.WellFormed) (p : TreePath) : (t.erase p).WellFormed := by
  intro q held k short
  by_cases root : q.take k = []
  · rw [root]
    rfl
  have q_root : q ≠ [] := fun empty => root (by simp [empty])
  rw [node?_erase q_root] at held
  split at held
  · cases held
  · next kept =>
    rw [node?_erase root, if_neg fun above => kept (above.trans (List.take_prefix k q))]
    exact wf q held k short

theorem WellFormed.mkdir (wf : t.WellFormed) (h : t.mkdir p = .ok t') : t'.WellFormed := by
  obtain ⟨_, walked, -⟩ := except_bind_eq_ok h
  obtain ⟨-, rfl⟩ := mkdir_eq_ok h
  exact wf.put walked fun _ => rfl

theorem WellFormed.createDirAll (wf : t.WellFormed) (h : t.createDirAll p = .ok t') : t'.WellFormed := by
  unfold FileTree.createDirAll at h
  generalize p.length + 1 = fuel at h
  induction fuel generalizing p t t' with
  | zero =>
    cases h
    exact wf
  | succ fuel ih =>
    simp only [createDirAll.go] at h
    split at h
    · cases h
      exact wf
    split at h
    · next made => cases h; exact wf.mkdir made
    · obtain ⟨t₁, parents, rest⟩ := except_bind_eq_ok h
      have wf₁ := ih wf parents
      split at rest
      · next made => cases rest; exact wf₁.mkdir made
      · split at rest
        · cases rest
          exact wf₁
        · cases rest
    · split at h
      · cases h
        exact wf
      · cases h

theorem WellFormed.writeFile (wf : t.WellFormed) {contents : String} (h : t.writeFile p contents = .ok t') :
    t'.WellFormed := by
  obtain ⟨_, walked, rest⟩ := except_bind_eq_ok h
  split at rest
  · cases rest
  · next not_dir =>
    cases rest
    exact wf.put walked fun dir => absurd dir not_dir

theorem WellFormed.removeFile (wf : t.WellFormed) (h : t.removeFile p = .ok t') : t'.WellFormed := by
  obtain ⟨_, -, rest⟩ := except_bind_eq_ok h
  split at rest
  · cases rest
  · cases rest
    exact wf.erase p

/-- A rename that succeeds found its source, walked down to its target, and
did not put a file onto a directory. -/
theorem rename_checks (h : t.rename source target = .ok t') :
    ∃ n, t.node? source = some n ∧ t.walk target = .ok () ∧
      ∀ c, n = .file c → t.node? target ≠ some .directory := by
  obtain ⟨n, found, walked⟩ := except_bind_eq_ok h
  obtain ⟨u, down, rest⟩ := except_bind_eq_ok walked
  refine ⟨n, (walk_of_metadata found).2, down, fun c file dir => ?_⟩
  subst file
  rw [dir] at rest
  cases rest

/-- Renaming a file keeps a tree well formed. -/
theorem WellFormed.rename (wf : t.WellFormed) (h : t.rename source target = .ok t') {c : String}
    (file : t.node? source = some (.file c)) : t'.WellFormed := by
  obtain ⟨n, found, walked, onto⟩ := rename_checks h
  rw [file, Option.some.injEq] at found
  subst found
  have above := walk_eq_ok_iff.mp walked
  have named : source ≠ [] := fun root => by simp [root, node?_nil] at file
  have target_root : target ≠ [] := fun root => onto c rfl (by rw [root]; rfl)
  -- the source is no directory, so it lies on no path down to the target
  have not_above : ∀ r, r <+: target → r ≠ target → ¬ source <+: r := by
    intro r above_target other on
    have strict : source.length < target.length :=
      Nat.lt_of_le_of_lt on.length_le (strict_length above_target other)
    have dir := above source.length strict
    rw [← List.prefix_iff_eq_take.mp (on.trans above_target), file] at dir
    cases dir
  intro q held k short
  by_cases root : q.take k = []
  · rw [root]
    rfl
  have q_root : q ≠ [] := fun empty => root (by simp [empty])
  have strict : q.take k ≠ q := fun same => by
    have := congrArg List.length same
    simp at this
    omega
  rw [node?_rename h named q_root] at held
  rw [node?_rename h named root]
  by_cases under : target <+: q
  · -- only the file itself moved, to the target, and nothing lies below it
    rw [if_pos under] at held
    have at_target : q = target := by
      by_contra other
      have moved : source ++ q.drop target.length ≠ source := fun same => other (by
        have rest : q.drop target.length = [] := by simpa using same
        calc q = target ++ q.drop target.length := (List.prefix_iff_eq_append.mp under).symm
          _ = target := by rw [rest, List.append_nil])
      rw [wf.below_file file (List.prefix_append _ _) moved] at held
      cases held
    subst at_target
    have not_under : ¬ q <+: q.take k := fun below => by
      have := below.length_le
      simp at this
      omega
    rw [if_neg not_under, if_neg (not_above _ (List.take_prefix k q) strict)]
    exact above k short
  · rw [if_neg under] at held
    split at held
    · cases held
    · next away =>
      rw [if_neg fun below => under (below.trans (List.take_prefix k q)),
        if_neg fun below => away (below.trans (List.take_prefix k q))]
      exact wf q held k short

theorem WellFormed.copy (wf : t.WellFormed) (h : t.copy source target = .ok t') : t'.WellFormed := by
  obtain ⟨_, -, written⟩ := except_bind_eq_ok h
  exact wf.writeFile written

/-! ## Writing, copying and removing -/

theorem node?_writeFile_self {contents : String} (h : t.writeFile p contents = .ok t') (root : p ≠ []) :
    t'.node? p = some (.file contents) := by
  rw [eq_put_of_writeFile h, node?_put_self _ root]

/-- A copy reads the file at the source and writes it at the target. -/
theorem copy_eq (h : t.copy source target = .ok t') :
    ∃ c, t.node? source = some (.file c) ∧ t.writeFile target c = .ok t' := by
  obtain ⟨c, read, written⟩ := except_bind_eq_ok h
  obtain ⟨n, found, rest⟩ := except_bind_eq_ok read
  cases n with
  | directory => cases rest
  | file c' =>
    cases rest
    exact ⟨c, (walk_of_metadata found).2, written⟩

theorem removeFile_eq (h : t.removeFile p = .ok t') : t' = t.erase p := by
  obtain ⟨_, -, rest⟩ := except_bind_eq_ok h
  split at rest
  · cases rest
  · exact (Except.ok.inj rest).symm

/-- A file of a well-formed tree is removed. -/
theorem WellFormed.removeFile_file (wf : t.WellFormed) {c : String} (file : t.node? p = some (.file c)) :
    t.removeFile p = .ok (t.erase p) := by
  have walked : t.walk p = .ok () := wf.walk (q := p) (by rw [file]; rfl)
  have read : t.metadata p = .ok (.file c) := by
    simp only [metadata, walked, file]
    rfl
  rw [FileTree.removeFile, read]
  rfl

/-- In a well-formed tree only a missing file is missing to a removal. -/
theorem WellFormed.removeFile_notFound (wf : t.WellFormed) (h : t.removeFile p = .error .notFound) :
    t.node? p = none := by
  cases found : t.node? p with
  | none => rfl
  | some n =>
    have walked : t.walk p = .ok () := wf.walk (q := p) (by rw [found]; rfl)
    have read : t.metadata p = .ok n := by
      simp only [metadata, walked, found]
      rfl
    rw [FileTree.removeFile, read] at h
    cases n <;> cases h

/-- Renaming a file of a well-formed tree moves only that file: every path
but the source and the target keeps what it held. -/
theorem fileAt_rename_file (wf : t.WellFormed) {c : String} (file : t.node? source = some (.file c))
    (h : t.rename source target = .ok t') (other : q ≠ target) (off : q ≠ source) :
    t'.fileAt q = t.fileAt q := by
  by_cases root : q = []
  · subst root
    rfl
  have named : source ≠ [] := fun empty => by simp [empty, node?_nil] at file
  obtain ⟨n, found, -, onto⟩ := rename_checks h
  rw [file, Option.some.injEq] at found
  subst found
  have after := node?_rename h named root
  by_cases under : target <+: q
  · -- below the target, which held no directory, nothing lay before and nothing lies now
    have moved_off : source ++ q.drop target.length ≠ source := fun same => other (by
      have rest : q.drop target.length = [] := by simpa using same
      calc q = target ++ q.drop target.length := (List.prefix_iff_eq_append.mp under).symm
        _ = target := by rw [rest, List.append_nil])
    rw [if_pos under, wf.below_file file (List.prefix_append _ _) moved_off] at after
    rw [fileAt, after, fileAt, wf.below_of_ne_directory (onto c rfl) under other]
  · rw [if_neg under] at after
    by_cases emptied : source <+: q
    · rw [if_pos emptied] at after
      rw [fileAt, after, fileAt, wf.below_file file emptied off]
    · rw [if_neg emptied] at after
      exact fileAt_congr after

/-- Erasing keeps every file or loses it. -/
theorem fileAt_erase_or (t : FileTree) (p q : TreePath) :
    (t.erase p).fileAt q = t.fileAt q ∨ (t.erase p).fileAt q = none := by
  by_cases root : q = []
  · subst root
    exact .inl rfl
  by_cases emptied : p <+: q
  · exact .inr (by rw [fileAt, node?_erase root, if_pos emptied])
  · exact .inl (fileAt_congr (by rw [node?_erase root, if_neg emptied]))

/-- A removal that may fail keeps every file or loses it. -/
theorem fileAt_removed (t : FileTree) (p q : TreePath) :
    ((t.removeFile p).toOption.getD t).fileAt q = t.fileAt q ∨
      ((t.removeFile p).toOption.getD t).fileAt q = none := by
  cases removed : t.removeFile p with
  | error e => exact .inl rfl
  | ok t₁ =>
    show t₁.fileAt q = _ ∨ t₁.fileAt q = none
    rw [removeFile_eq removed]
    exact fileAt_erase_or t p q

/-- A removal that may fail keeps every file off the removed path. -/
theorem fileAt_removed_off (t : FileTree) {p q : TreePath} (off : ¬ p <+: q) :
    ((t.removeFile p).toOption.getD t).fileAt q = t.fileAt q := by
  cases removed : t.removeFile p with
  | error e => rfl
  | ok t₁ =>
    show t₁.fileAt q = _
    rw [removeFile_eq removed]
    by_cases root : q = []
    · subst root
      rfl
    exact fileAt_congr (by rw [node?_erase root, if_neg off])

end FileTree

namespace FilesystemDisk

open FileTree

variable {d : FilesystemDisk} {path : String} {t t' : FileTree} {source dest q : TreePath} {shared : Bool}

/-- Staging names for one destination differ by their number. -/
theorem stagingName_inj {name : String} {k j : Nat} (same : stagingName name k = stagingName name j) : k = j := by
  unfold stagingName at same
  exact toString_injective ((String.append_right_inj _).mp ((String.append_left_inj _).mp same))

/-- A staging path sits beside its destination under a staging name. -/
theorem stagingPath_eq (t : FileTree) (dest : TreePath) :
    ∃ k, stagingPath t dest = dest.dropLast ++ [stagingName (dest.getLastD "") k] :=
  ⟨_, rfl⟩

/-- The staging file beside a destination is not the destination, nor below it. -/
theorem stagingPath_apart (t : FileTree) (root : dest ≠ []) :
    stagingPath t dest ≠ [] ∧ ¬ dest <+: stagingPath t dest := by
  obtain ⟨k, named⟩ := stagingPath_eq t dest
  rw [named]
  refine ⟨by simp, fun below => ?_⟩
  have size : dest.length = (dest.dropLast ++ [stagingName (dest.getLastD "") k]).length := by
    have := List.length_pos_iff.mpr root
    simp only [List.length_append, List.length_dropLast, List.length_singleton]
    omega
  -- the two would end in the same name, but the staging name is longer
  have ends := congrArg List.getLast? (below.eq_of_length size)
  simp [List.getLastD_eq_getLast?, List.getLast?_eq_some_getLast root] at ends
  have name := congrArg String.length ends
  have dot : 0 < ".".length := by decide
  simp only [stagingName, String.length_append] at name
  omega

/-- Nothing stands at or below a staging path. -/
theorem node?_stagingPath (below : stagingPath t dest <+: q) : t.node? q = none :=
  node?_freshName (fun _ _ => stagingName_inj) below

/-- The steps of a move onto a disk: the destination's directory is made,
then the source is renamed onto the destination, or copied to the staging
file beside it, which is renamed onto the destination before the source is
removed. -/
theorem putFile_cases (h : d.putFile t path source shared = .ok t') :
    ∃ dest t₁, d.filePath path = .ok dest ∧ t.createDirAll dest.dropLast = .ok t₁ ∧
      (t₁.rename source dest = .ok t' ∨
        ∃ t₂ t₃, t₁.copy source (stagingPath t₁ dest) = .ok t₂ ∧ t₂.rename (stagingPath t₁ dest) dest = .ok t₃ ∧
          t' = (t₃.removeFile source).toOption.getD t₃) := by
  obtain ⟨dest, found, rest⟩ := except_bind_eq_ok h
  obtain ⟨t₁, parents, rest⟩ := except_bind_eq_ok rest
  refine ⟨dest, t₁, found, liftIo_eq_ok.mp parents, ?_⟩
  split at rest
  · next renamed =>
    cases rest
    split at renamed
    · exact .inl renamed
    · cases renamed
  · obtain ⟨t₂, copied, rest⟩ := except_bind_eq_ok rest
    obtain ⟨t₃, settled, rest⟩ := except_bind_eq_ok rest
    cases rest
    exact .inr ⟨t₂, t₃, liftIo_eq_ok.mp copied, settle_eq_ok settled, rfl⟩

theorem WellFormed.putFile (wf : t.WellFormed) (h : d.putFile t path source shared = .ok t') {c : String}
    (file : t.node? source = some (.file c)) : t'.WellFormed := by
  obtain ⟨dest, t₁, -, parents, moved⟩ := putFile_cases h
  have wf₁ := wf.createDirAll parents
  have file₁ : t₁.node? source = some (.file c) := by
    rcases makesDirsAlong_createDirAll parents source with same | ⟨-, absent, -⟩
    · rw [same, file]
    · rw [file] at absent
      cases absent
  rcases moved with renamed | ⟨t₂, t₃, copied, settled, rfl⟩
  · exact wf₁.rename renamed file₁
  · obtain ⟨c', -, written⟩ := copy_eq copied
    have staged : t₂.node? (stagingPath t₁ dest) = some (.file c') :=
      node?_writeFile_self written (by simp [stagingPath])
    have wf₃ := (wf₁.writeFile written).rename settled staged
    cases removed : t₃.removeFile source with
    | error e => exact wf₃
    | ok t₄ => exact wf₃.removeFile removed

/-- Making directories keeps a file where it is. -/
theorem node?_file_createDirAll {p : TreePath} {c : String} (h : t.createDirAll p = .ok t')
    (file : t.node? q = some (.file c)) : t'.node? q = some (.file c) := by
  rcases makesDirsAlong_createDirAll h q with same | ⟨-, absent, -⟩
  · rw [same, file]
  · rw [file] at absent
    cases absent

/-- A move onto a disk puts the source's file at the destination, when the
destination is not inside the source. -/
theorem node?_putFile_dest (h : d.putFile t path source shared = .ok t') (found : d.filePath path = .ok dest)
    {c : String} (file : t.node? source = some (.file c)) (off : ¬ source <+: dest) :
    t'.node? dest = some (.file c) := by
  obtain ⟨dest', t₁, found', parents, moved⟩ := putFile_cases h
  rw [found] at found'
  cases found'
  obtain ⟨parts, full, rfl⟩ := filePath_below d path found
  have root : d.root ++ parts ≠ [] := by simp [full]
  have named : source ≠ [] := fun empty => off (by rw [empty]; exact List.nil_prefix)
  have file₁ := node?_file_createDirAll parents file
  rcases moved with renamed | ⟨t₂, t₃, copied, settled, rfl⟩
  · rw [node?_rename renamed named root, if_pos (List.prefix_refl _), List.drop_length, List.append_nil, file₁]
  · obtain ⟨c', read, written⟩ := copy_eq copied
    rw [file₁, Option.some.injEq, FileNode.file.injEq] at read
    subst read
    have staged := node?_writeFile_self written (stagingPath_apart t₁ root).1
    have placed : t₃.node? (d.root ++ parts) = some (.file c) := by
      rw [node?_rename settled (stagingPath_apart t₁ root).1 root, if_pos (List.prefix_refl _), List.drop_length,
        List.append_nil, staged]
    cases removed : t₃.removeFile source with
    | error e => exact placed
    | ok t₄ =>
      show t₄.node? _ = _
      rw [removeFile_eq removed, node?_erase root, if_neg off, placed]

/-- A move onto a disk changes no file but the source's and the destination's:
a staging file beside the destination was fresh and is gone again. -/
theorem fileAt_putFile_other (wf : t.WellFormed) (h : d.putFile t path source shared = .ok t')
    (found : d.filePath path = .ok dest) {c : String} (file : t.node? source = some (.file c)) (other : q ≠ dest)
    (off : q ≠ source) : t'.fileAt q = t.fileAt q := by
  obtain ⟨dest', t₁, found', parents, moved⟩ := putFile_cases h
  rw [found] at found'
  cases found'
  obtain ⟨parts, full, rfl⟩ := filePath_below d path found
  have wf₁ := wf.createDirAll parents
  have kept₁ := (makesDirsAlong_createDirAll parents).fileAt q
  have file₁ := node?_file_createDirAll parents file
  rcases moved with renamed | ⟨t₂, t₃, copied, settled, rfl⟩
  · exact (fileAt_rename_file wf₁ file₁ renamed other off).trans kept₁
  · -- the copy at the staging file moves on to the destination, then the source goes
    obtain ⟨c', -, written⟩ := copy_eq copied
    have named := stagingPath_apart t₁ (by simp [full] : d.root ++ parts ≠ [])
    have staged := node?_writeFile_self written named.1
    have kept₃ : t₃.fileAt q = t.fileAt q := by
      by_cases aside : q = stagingPath t₁ (d.root ++ parts)
      · -- the staging file was fresh, and the rename took it away again
        subst aside
        have gone : t₃.node? (stagingPath t₁ (d.root ++ parts)) = none := by
          rw [node?_rename settled named.1 named.1, if_neg named.2, if_pos (List.prefix_refl _)]
        rw [fileAt_congr (gone.trans (node?_stagingPath (List.prefix_refl _)).symm), kept₁]
      · have unwritten : t₂.fileAt q = t₁.fileAt q :=
          fileAt_congr (by rw [eq_put_of_writeFile written]; exact node?_put _ aside)
        exact (fileAt_rename_file (wf₁.writeFile written) staged settled other aside).trans (unwritten.trans kept₁)
    by_cases below : source <+: q
    · have before : t.fileAt q = none := by rw [fileAt, wf.below_file file below off]
      rcases fileAt_removed t₃ source q with kept | dropped
      · exact kept.trans kept₃
      · exact dropped.trans before.symm
    · exact (fileAt_removed_off t₃ below).trans kept₃

theorem WellFormed.makeDirectory (wf : t.WellFormed) (h : d.makeDirectory t path = .ok t') : t'.WellFormed := by
  obtain ⟨r, -, made⟩ := except_bind_eq_ok h
  exact wf.createDirAll (liftIo_eq_ok.mp made)

/-- A deletion that succeeds leaves no file at the path, in a well-formed tree. -/
theorem fileAt_delete (wf : t.WellFormed) (h : d.delete t path = .ok t') (found : d.filePath path = .ok dest) :
    t'.fileAt dest = none := by
  obtain ⟨p, found', rest⟩ := except_bind_eq_ok h
  rw [found] at found'
  cases found'
  obtain ⟨parts, full, rfl⟩ := filePath_below d path found
  have root : d.root ++ parts ≠ [] := by simp [full]
  split at rest
  · next removed =>
    cases rest
    rw [fileAt, removeFile_eq removed, node?_erase_below (List.prefix_refl _) root]
  · next missing =>
    cases rest
    rw [fileAt, wf.removeFile_notFound missing]
  · cases rest

/-- A deletion that succeeds only removes. -/
theorem fileAt_delete_or (h : d.delete t path = .ok t') (q : TreePath) : t'.fileAt q = t.fileAt q ∨ t'.fileAt q = none := by
  obtain ⟨p, -, rest⟩ := except_bind_eq_ok h
  split at rest
  · next removed =>
    cases rest
    rw [removeFile_eq removed]
    exact fileAt_erase_or t p q
  · cases rest
    exact .inl rfl
  · cases rest

/-- A deletion that fails on a well-formed tree found no file to delete. -/
theorem fileAt_delete_failed (wf : t.WellFormed) {err : StorageError} (h : d.delete t path = .error err)
    (found : d.filePath path = .ok dest) : t.fileAt dest = none := by
  cases held : t.fileAt dest with
  | none => rfl
  | some c =>
    have removed := wf.removeFile_file (fileAt_eq_some_iff.mp held)
    simp [FilesystemDisk.delete, found, removed, bind, Except.bind, pure, Except.pure] at h

theorem WellFormed.delete (wf : t.WellFormed) (h : d.delete t path = .ok t') : t'.WellFormed := by
  obtain ⟨p, -, rest⟩ := except_bind_eq_ok h
  split at rest
  · next removed =>
    cases rest
    exact wf.removeFile removed
  · cases rest
    exact wf
  · cases rest

end FilesystemDisk

end ReportExport
