import ReportExport.Proofs.Engine.PureTerm
import ReportExport.Sql.Connection

/-!
# Rows under the engine's checks

The engine's statements are written with loops in its monads: over the rows
of a table, the columns of a row, the CHECK constraints of a table. This
module gives those loops closed forms when their bodies keep their state,
fold a step, or fail at the first element that is bad, and uses them for
the pieces INSERT and UPDATE share:

* evaluating pure terms, a VALUES row of them, or a RETURNING list of them,
  against a database leaves it as it was;
* writing values into some columns of a row (`Table.written`), the SET list
  of pure terms (`Database.assign_pure`);
* checking a row (`Database.checkRow_plain` for a row an UPDATE changed,
  `Database.checkRow_fresh` for a new row): once its NOT NULL columns hold
  values, only its CHECK constraints can fail it, and the first false one
  names the error (`firstFalse`).
-/

namespace ReportExport.Sql

open Text

/-! ## Loops in the engine's monad -/

section Loops

variable {ε σ α β : Type}

@[simp] theorem except_pure (a : α) : (pure a : Except ε α) = .ok a := rfl

@[simp] theorem except_ok_bind (a : α) (f : α → Except ε β) : (Except.ok a >>= f) = f a := rfl

@[simp] theorem except_error_bind (e : ε) (f : α → Except ε β) : (Except.error e >>= f) = .error e := rfl

/-- A loop whose body keeps its state gives that state back. -/
theorem forIn_keep (xs : List α) (s : σ) (f : α → σ → Except ε (ForInStep σ))
    (hf : ∀ x ∈ xs, f x s = .ok (.yield s)) : forIn xs s f = .ok s := by
  induction xs with
  | nil => rfl
  | cons x xs ih =>
    rw [List.forIn_cons, hf x (by simp)]
    exact ih fun y hy => hf y (by simp [hy])

/-- A loop whose body always goes on is a left fold of the step it makes. -/
theorem forIn_eq_foldl (xs : List α) (step : σ → α → σ) (f : α → σ → Except ε (ForInStep σ))
    (hf : ∀ x ∈ xs, ∀ s, f x s = .ok (.yield (step s x))) :
    ∀ s, forIn xs s f = .ok (xs.foldl step s) := by
  induction xs with
  | nil => intro s; rfl
  | cons x xs ih =>
    intro s
    rw [List.forIn_cons, hf x (by simp) s]
    exact ih (fun y hy => hf y (by simp [hy])) (step s x)

/-- Pushing the images of the selected elements, one by one. -/
theorem foldl_push_filter (xs : List α) (sel : α → Bool) (g : α → β) (s : σ) :
    ∀ acc : Array β, xs.foldl (fun (st : σ × Array β) x => (st.1, if sel x then st.2.push (g x) else st.2))
      (s, acc) = (s, acc ++ ((xs.filter sel).map g).toArray) := by
  induction xs with
  | nil => intro acc; simp
  | cons x xs ih =>
    intro acc
    cases hx : sel x <;> simp [hx, ih]

/-- Pushing the image of each element. -/
theorem foldl_push (xs : List α) (g : α → β) (s : σ) :
    ∀ acc : Array β, xs.foldl (fun (st : σ × Array β) x => (st.1, st.2.push (g x))) (s, acc) =
      (s, acc ++ (xs.map g).toArray) := by
  induction xs with
  | nil => intro acc; simp
  | cons x xs ih => intro acc; simp [ih]

/-- Appending the image of each element to the last part of a state. -/
theorem foldl_snoc {τ : Type} (xs : List α) (g : α → β) (s : σ) (t : τ) :
    ∀ acc : List β, xs.foldl (fun (st : σ × τ × List β) x => (st.1, st.2.1, st.2.2 ++ [g x])) (s, t, acc) =
      (s, t, acc ++ xs.map g) := by
  induction xs with
  | nil => intro acc; simp
  | cons x xs ih => intro acc; simp [ih]

/-- A loop whose body either fails or keeps its state fails at the first
element that makes it fail. -/
theorem forIn_first_failure (xs : List α) (s : σ) (bad : α → Bool) (err : α → ε)
    (f : α → σ → Except ε (ForInStep σ))
    (hf : ∀ x ∈ xs, f x s = if bad x then .error (err x) else .ok (.yield s)) :
    forIn xs s f = match xs.find? bad with
      | some x => .error (err x)
      | none => .ok s := by
  induction xs with
  | nil => rfl
  | cons x xs ih =>
    have rest := ih fun y hy => hf y (by simp [hy])
    rw [List.forIn_cons, hf x (by simp)]
    cases hx : bad x <;> simp [hx, rest]

end Loops

/-! ## Evaluating pure terms against a database -/

section RunPure

variable (db : Database) (params : Array SqlValue) (env : Env) {p : PureTerm} {fuel : Nat}

/-- A pure term evaluates against a database without changing it. -/
theorem Database.runEvalOnce_pure (once : OnceRows) (h : p.depth < fuel) :
    db.runEvalOnce params once (evalTerm fuel env p.toTerm) = .ok (p.eval params env, db, once) := by
  simp only [Database.runEvalOnce, StateT.run, ReaderT.run, PureTerm.evalTerm_toTerm p fuel env _ _ h]

theorem Database.runEval_pure (h : p.depth < fuel) :
    db.runEval params (evalTerm fuel env p.toTerm) = .ok (p.eval params env, db) := by
  simp only [Database.runEval, Database.runEvalOnce_pure db params env [] h]

/-- A VALUES row of pure terms is evaluated in a scope of its own. -/
theorem runPlan_values (ps : PureTerms) (fuel : Nat) (env : Env) (ctx : EvalContext) (st : EvalState)
    (h : ps.depth < fuel) :
    runPlan (fuel + 1) env (.values [ps.toTerms]) ctx st =
      .ok (#[(ps.eval ctx.params (({} : Scope) :: env)).toArray], st) := by
  simp [runPlan, PureTerms.evalTerms_toTerms ps fuel _ ctx st h]

/-- A RETURNING list of pure terms is evaluated on the row. -/
theorem Database.returnRow_pure (db : Database) (params : Array SqlValue) (t : Table) (ps : PureTerms)
    (rowid : Int) (vals : Array SqlValue) (h : ps.depth < 100000) :
    db.returnRow params t ps.toTerms rowid vals = .ok ((ps.eval params [t.scopeOf rowid vals]).toArray, db) := by
  simp [Database.returnRow, Database.runEval, Database.runEvalOnce, StateT.run, ReaderT.run,
    PureTerms.evalTerms_toTerms ps 100000 _ _ _ h]

end RunPure

/-! ## Rows and keys -/

/-- In rows whose keys are distinct, the row of a key is found by its key. -/
theorem find?_key_of_mem {β : Type} : ∀ {l : List (Int × β)}, (l.map (·.1)).Nodup → ∀ {row : Int × β},
    row ∈ l → l.find? (·.1 == row.1) = some row
  | x :: xs, keys, row, hmem => by
    simp only [List.map_cons, List.nodup_cons, List.mem_map] at keys
    rcases List.mem_cons.1 hmem with rfl | hrow
    · simp
    · have hne : x.1 ≠ row.1 := fun h => keys.1 ⟨row, hrow, h.symm⟩
      simp [hne, find?_key_of_mem keys.2 hrow]

theorem Table.row?_of_mem (t : Table) (keys : (t.rows.toList.map (·.1)).Nodup) {row : StoredRow}
    (hmem : row ∈ t.rows.toList) : t.row? row.1 = some row.2 := by
  simp only [Table.row?, ← Array.find?_toList, find?_key_of_mem keys hmem, Option.map_some]

/-- Putting a row under a rowid past every rowid of the table appends it. -/
theorem Table.putRow_past (t : Table) (rowid : Int) (vals : Array SqlValue)
    (past : ∀ row ∈ t.rows.toList, row.1 < rowid) : (t.putRow rowid vals).rows = t.rows.push (rowid, vals) := by
  unfold Table.putRow
  cases hb : t.rows.back? with
  | none =>
    have : t.rows = #[] := by simpa using hb
    simp [this]
  | some last =>
    have hmem : last ∈ t.rows.toList := by simpa using Array.mem_of_back? hb
    simp [past last hmem]

/-- Putting a row under the rowid of a row of a table in rowid order
replaces that row in place. -/
theorem Table.putRow_existing (t : Table) (rowid : Int) (old vals : Array SqlValue)
    (ascending : (t.rows.toList.map (·.1)).Pairwise (· < ·)) (hmem : (rowid, old) ∈ t.rows.toList) :
    (t.putRow rowid vals).rows.toList =
      t.rows.toList.map fun row => if row.1 = rowid then (rowid, vals) else row := by
  -- the rows before the replaced one are below its rowid, those after above
  obtain ⟨pre, post, hsplit⟩ := List.append_of_mem hmem
  rw [hsplit, List.map_append, List.pairwise_append] at ascending
  simp only [List.map_cons, List.pairwise_cons, List.mem_map, List.mem_cons, forall_exists_index, and_imp]
    at ascending
  obtain ⟨-, ⟨hpost, -⟩, hcross⟩ := ascending
  have hpre : ∀ x ∈ pre, x.1 < rowid := fun x hx => hcross _ x hx rfl _ (Or.inl rfl)
  have hpost' : ∀ x ∈ post, rowid < x.1 := fun x hx => hpost _ x hx rfl
  have hrows : t.rows = (pre ++ (rowid, old) :: post).toArray := by rw [← hsplit]
  -- so the last row is not below the rowid, and the row is not appended
  have hlast : ∃ x, (pre ++ (rowid, old) :: post).getLast? = some x ∧ rowid ≤ x.1 := by
    cases hp : post.getLast? with
    | none =>
      have : post = [] := by simpa using hp
      subst this
      exact ⟨(rowid, old), by simp, Int.le_refl _⟩
    | some y =>
      refine ⟨y, ?_, Int.le_of_lt (hpost' y (List.mem_of_getLast? hp))⟩
      rw [List.getLast?_append, List.getLast?_cons, hp]
      simp
  obtain ⟨x, hx, hle⟩ := hlast
  unfold Table.putRow
  rw [hrows, List.back?_toArray, hx]
  have hnot : ¬ x.1 < rowid := by omega
  simp only [hnot, if_false]
  have hbelow : ∀ y ∈ pre, y.1 ≠ rowid := fun y hy => Int.ne_of_lt (hpre y hy)
  have habove : ∀ y ∈ post, y.1 ≠ rowid := fun y hy => Int.ne_of_gt (hpost' y hy)
  have hmap : (pre ++ (rowid, old) :: post).map (fun row => if row.1 = rowid then (rowid, vals) else row) =
      pre ++ (rowid, vals) :: post := by
    rw [List.map_append, List.map_cons, List.map_congr_left (fun y hy => if_neg (hbelow y hy)),
      List.map_congr_left (l := post) (fun y hy => if_neg (habove y hy))]
    simp
  have hkeep : (pre ++ (rowid, old) :: post).filter (fun y => y.1 != rowid) = pre ++ post := by
    rw [List.filter_append, List.filter_cons, List.filter_eq_self.2 (by simpa using hbelow),
      List.filter_eq_self.2 (by simpa using habove)]
    simp
  have hlow : (pre ++ post).filter (fun y => decide (y.1 < rowid)) = pre := by
    rw [List.filter_append, List.filter_eq_self.2 (by simpa using hpre),
      List.filter_eq_nil_iff.2 (fun y hy => by simpa using Int.le_of_lt (hpost' y hy))]
    simp
  have hhigh : (pre ++ post).filter (fun y => decide (y.1 > rowid)) = post := by
    rw [List.filter_append, List.filter_eq_nil_iff.2 (fun y hy => by simpa using Int.le_of_lt (hpre y hy)),
      List.filter_eq_self.2 (by simpa using hpost')]
    simp
  rw [hmap]
  simp only [Array.toList_append, Array.toList_push, Array.toList_filter, hkeep, hlow, hhigh]
  simp

/-- A statement that wrote no row and changed no parent key has no foreign
key to check. -/
theorem Database.checkForeignKeys_nothing (db : Database) : db.checkForeignKeys [] [] = .ok () := by
  simp only [Database.checkForeignKeys, List.any_nil, Bool.or_false, Bool.false_eq_true, if_false]
  split
  · rfl
  · rw [forIn_keep _ PUnit.unit _ ?child]
    · rfl
    intro child _
    split
    · rw [forIn_keep _ PUnit.unit _ ?fk]
      · rfl
      intro fk _
      rw [← Array.forIn_toList, forIn_keep _ PUnit.unit _ (fun _ _ => rfl)]
      rfl
    · rfl

/-! ## The new values of a row -/

/-- A row after writing values into some of its columns, each under its
column's affinity. -/
def Table.written (t : Table) (vals : Array SqlValue) (ws : List (Nat × SqlValue)) : Array SqlValue :=
  ws.foldl (fun nv w => nv.set! w.1 (w.2.stored (t.columns[w.1]!).affinity)) vals

/-- Writing columns that leave the rowid column holding the rowid keeps the
rowid. -/
theorem Database.applyValues_columns (t : Table) (r : Int) (vals : Array SqlValue)
    (ws : List (Nat × SqlValue))
    (hrowid : ∀ p, t.rowidColumn = some p → (t.written vals ws)[p]? = some (.integer r)) :
    Database.applyValues t r vals (ws.map fun w => (some w.1, w.2)) = .ok (r, t.written vals ws) := by
  simp only [Database.applyValues, List.forIn_map]
  rw [forIn_eq_foldl ws (fun s w => (s.1.set! w.1 (w.2.stored (t.columns[w.1]!).affinity), s.2)) _ ?step]
  case step => intro _ _ _; rfl
  -- the loop only writes columns, so the rowid it carries stays
  have hfold : ∀ (nv : Array SqlValue) (ws : List (Nat × SqlValue)),
      ws.foldl (fun s w => (s.1.set! w.1 (w.2.stored (t.columns[w.1]!).affinity), s.2)) (nv, r) =
        (t.written nv ws, r) := by
    intro nv ws
    induction ws generalizing nv with
    | nil => rfl
    | cons w ws ih => exact ih _
  rw [hfold]
  cases hp : t.rowidColumn with
  | none => rfl
  | some p => simp [hrowid p hp]

/-- The SET list of pure terms is evaluated on the old row, every term
before any column is written. -/
theorem Database.assign_pure (db : Database) (params : Array SqlValue) (once : OnceRows) (t : Table)
    (r : Int) (vals : Array SqlValue) (ws : List (Nat × PureTerm)) (hdepth : ∀ w ∈ ws, w.2.depth < 100000)
    (hrowid : ∀ p, t.rowidColumn = some p →
      (t.written vals (ws.map fun w => (w.1, w.2.eval params [t.scopeOf r vals])))[p]? = some (.integer r)) :
    db.assign params [] once t (ws.map fun w => ([some w.1], w.2.toTerm)) r vals =
      .ok (r, t.written vals (ws.map fun w => (w.1, w.2.eval params [t.scopeOf r vals])), db, once) := by
  simp only [Database.assign, List.forIn_map]
  rw [forIn_eq_foldl ws (fun s w => (s.1, s.2.1, s.2.2 ++ [(some w.1, w.2.eval params [t.scopeOf r vals])])) _
    ?body]
  case body =>
    intro w hw s
    simp [Database.runEvalOnce_pure _ _ _ _ (hdepth w hw)]
  rw [foldl_snoc, List.nil_append, except_ok_bind,
    show ws.map (fun w => (some w.1, w.2.eval params [t.scopeOf r vals])) =
      (ws.map fun w => (w.1, w.2.eval params [t.scopeOf r vals])).map fun w => (some w.1, w.2) by simp,
    Database.applyValues_columns t r vals _ hrowid]
  rfl

/-! ## Checking a row -/

/-- The first of some CHECK constraints, resolved to pure terms, that is
false on a row. -/
def firstFalse (params : Array SqlValue) (env : Env) (checks : List (CheckConstraint × PureTerm × Resolve.Typing)) :
    Option (CheckConstraint × PureTerm × Resolve.Typing) :=
  checks.find? fun c => (c.2.1.eval params env).truth? == some false

/-- Checking a row an UPDATE changed, without changing its rowid, on a table
without unique indexes: the NOT NULL columns it wrote hold values, so only
the CHECK constraints that read a written column can fail it, the first
false one naming the error. -/
theorem Database.checkRow_plain (db : Database) (params : Array SqlValue) (t : Table) (r : Int)
    (vals : Array SqlValue) (cs : List Nat) (checks : List (CheckConstraint × PureTerm × Resolve.Typing))
    (hasRowid : t.withoutRowid = false)
    (noUnique : (db.indexesOf t.name).filter (·.unique) = [])
    (filled : ∀ i < t.columns.size, (t.columns[i]!).notNull.isSome → i ∈ cs → t.rowidColumn ≠ some i →
      (vals[i]!).isNull = false)
    (selected : t.checks.filter (fun ck => Expr.mentions (t.namesAt cs) 200 ck.e) = checks.map (·.1))
    (resolved : Resolve.resolveOver db (some (Resolve.tableLevel t t.name)) [] (checks.map (·.1.e)) =
      .ok (checks.map fun c => (c.2.1.toTerm, c.2.2)))
    (shallow : ∀ c ∈ checks, c.2.1.depth < 100000) :
    db.checkRow params none t r vals (some (cs, false)) (some r) db none =
      match firstFalse params [t.scopeOf r vals] checks with
      | some c => .error { error := .constraint 275 ("CHECK constraint failed: " ++ c.1.name) }
      | none => .ok (.keep vals db) := by
  have names : cs.filterMap (fun i => (t.columns[i]? : Option Column).map (·.name)) ++ [] = t.namesAt cs := by
    simp [Table.namesAt]
  simp only [Database.checkRow, hasRowid, resolutionOf, Std.Legacy.Range.forIn_eq_forIn_range',
    Std.Legacy.Range.size]
  -- NOT NULL: every column the statement wrote and must hold a value does
  rw [forIn_keep _ (none, vals, db) _ ?notNull]
  case notNull =>
    intro i hi
    have hlt : i < t.columns.size := by simp at hi; omega
    cases hc : (t.columns[i]!).notNull with
    | none => simp
    | some res =>
      have hval := filled i hlt (by simp [hc])
      have hcond : ¬ ((i ∈ cs ∧ vals[i]!.isNull = true) ∧ ¬t.rowidColumn = some i) := by
        rintro ⟨⟨hmem, hnull⟩, hrow⟩
        simp [hval hmem hrow] at hnull
      simp [hcond]
  simp only [except_ok_bind, names, selected, noUnique, List.reverse_nil, List.filter_nil, List.append_nil,
    Bool.false_and, Bool.false_eq_true, if_false, List.map_map, Function.comp_def, resolved, lift, List.zip_map',
    List.forIn_map, pure_bind]
  -- CHECK: the first false constraint stops the statement
  rw [forIn_first_failure checks (none, db) (fun c => (c.2.1.eval params [t.scopeOf r vals]).truth? == some false)
    (fun c => stopFor .abort (.constraint 275 ("CHECK constraint failed: " ++ c.1.name)) db) _ ?check]
  case check =>
    intro c hc
    rw [Database.runEval_pure _ _ _ (shallow c hc)]
    by_cases hbad : (c.2.1.eval params [t.scopeOf r vals]).truth? = some false
    · simp [hbad]; rfl
    · simp [hbad]
  unfold firstFalse
  cases hfind : checks.find? (fun c => (c.2.1.eval params [t.scopeOf r vals]).truth? == some false) with
  | some c =>
    have hne : checks ≠ [] := by rintro rfl; simp at hfind
    simp [hne]
    rfl
  | none =>
    -- the rowid stays and no index is unique, so nothing else is checked
    simp only [except_ok_bind]
    simp only [noUnique, List.reverse_nil, List.filter_nil, List.append_nil]
    split <;> rfl

/-- Checking a new row, on a table without unique indexes, under a rowid no
row has: its NOT NULL columns hold values, so only its CHECK constraints can
fail it, the first false one naming the error. -/
theorem Database.checkRow_fresh (db : Database) (params : Array SqlValue) (t : Table) (r : Int)
    (vals : Array SqlValue) (checks : List (CheckConstraint × PureTerm × Resolve.Typing))
    (hasRowid : t.withoutRowid = false)
    (noUnique : (db.indexesOf t.name).filter (·.unique) = [])
    (filled : ∀ i < t.columns.size, (t.columns[i]!).notNull.isSome → t.rowidColumn ≠ some i →
      (vals[i]!).isNull = false)
    (all : t.checks = checks.map (·.1))
    (resolved : Resolve.resolveOver db (some (Resolve.tableLevel t t.name)) [] (checks.map (·.1.e)) =
      .ok (checks.map fun c => (c.2.1.toTerm, c.2.2)))
    (shallow : ∀ c ∈ checks, c.2.1.depth < 100000)
    (fresh : (db.current t).row? r = none) :
    db.checkRow params none t r vals none none db none =
      match firstFalse params [t.scopeOf r vals] checks with
      | some c => .error { error := .constraint 275 ("CHECK constraint failed: " ++ c.1.name) }
      | none => .ok (.keep vals db) := by
  simp only [Database.checkRow, hasRowid, resolutionOf, Std.Legacy.Range.forIn_eq_forIn_range',
    Std.Legacy.Range.size]
  rw [forIn_keep _ (none, vals, db) _ ?notNull]
  case notNull =>
    intro i hi
    have hlt : i < t.columns.size := by simp at hi; omega
    cases hc : (t.columns[i]!).notNull with
    | none => simp
    | some res =>
      have hval := filled i hlt (by simp [hc])
      have hcond : ¬ (vals[i]!.isNull = true ∧ ¬t.rowidColumn = some i) := by
        rintro ⟨hnull, hrow⟩
        simp [hval hrow] at hnull
      simp [hcond]
  simp only [except_ok_bind, all, noUnique, List.reverse_nil, List.filter_nil, List.append_nil,
    List.map_map, Function.comp_def, resolved, lift, List.zip_map', List.forIn_map, pure_bind]
  rw [forIn_first_failure checks (none, db) (fun c => (c.2.1.eval params [t.scopeOf r vals]).truth? == some false)
    (fun c => stopFor .abort (.constraint 275 ("CHECK constraint failed: " ++ c.1.name)) db) _ ?check]
  case check =>
    intro c hc
    rw [Database.runEval_pure _ _ _ (shallow c hc)]
    by_cases hbad : (c.2.1.eval params [t.scopeOf r vals]).truth? = some false
    · simp [hbad]; rfl
    · simp [hbad]
  unfold firstFalse
  cases hfind : checks.find? (fun c => (c.2.1.eval params [t.scopeOf r vals]).truth? == some false) with
  | some c =>
    have hne : checks ≠ [] := by rintro rfl; simp at hfind
    simp [hne]
    rfl
  | none =>
    simp only [except_ok_bind, fresh, Option.isSome_none, Bool.false_and, Bool.false_eq_true, if_false,
      noUnique, List.reverse_nil, List.filter_nil, List.append_nil]
    split <;> rfl

end ReportExport.Sql
