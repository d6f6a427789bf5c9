import ReportExport.Proofs.Engine.Plan

/-!
# SELECT from one table by pure terms

The export repository reads a record with one SELECT of columns of
`report_exports` whose WHERE clause compares a column with a parameter. Such
a statement resolves to a plan that scans one table, keeps the rows on which
a pure filter is true and evaluates pure outputs on each; nothing groups,
sorts, limits or numbers the rows. This module computes what the engine does
with such a plan:

* the FROM item is the table's rows, each led by its rowid
  (`joinSources_table`);
* the plan gives the outputs of the rows that pass the filter, in table
  order, and leaves the evaluation state alone (`runPlan_select_pure`);
* run by a connection, the statement changes nothing (`execute_select`).

A `SelectPlan` names the table, the filter, the outputs and the names of the
result columns; `SelectPlan.fits` is a boolean check that a query resolves
to it on one database, which the kernel evaluates on a fixed database and
`SelectPlan.Fits.schema` carries to every database of the same schema.
-/

namespace ReportExport.Sql

open Text

/-! ## Loops of evaluation -/

section Loops

variable {α σ : Type}

/-- A loop whose body always goes on and keeps the evaluation state is a left
fold of the step it makes. -/
theorem eval_forIn_yield (xs : List α) (step : σ → α → σ) (f : α → σ → Eval (ForInStep σ))
    (ctx : EvalContext) (st : EvalState) (hf : ∀ x s, f x s ctx st = .ok (.yield (step s x), st)) :
    ∀ s, forIn xs s f ctx st = .ok (xs.foldl step s, st) := by
  induction xs with
  | nil => intro s; rfl
  | cons x xs ih =>
    intro s
    simp only [List.forIn_cons, eval_bind_apply, hf x s]
    exact ih (step s x)

/-- The first part of a fold whose step makes that part on its own. -/
theorem foldl_fst {β γ : Type} (xs : List α) (g : β → α → β) (h : β × γ → α → γ) :
    ∀ s : β × γ, (xs.foldl (fun s x => (g s.1 x, h s x)) s).1 = xs.foldl g s.1 := by
  induction xs with
  | nil => intro s; rfl
  | cons x xs ih => intro s; exact ih _

/-- Pushing the images of the selected elements, one by one. -/
theorem foldl_pushIf {β : Type} (xs : List α) (sel : α → Bool) (g : α → β) :
    ∀ acc : Array β, xs.foldl (fun out x => if sel x then out.push (g x) else out) acc =
      acc ++ ((xs.filter sel).map g).toArray := by
  induction xs with
  | nil => intro acc; simp
  | cons x xs ih =>
    intro acc
    cases hx : sel x <;> simp [hx, ih]

/-- Pushing the elements of an array by their indices copies it. -/
theorem foldl_range'_push {β : Type} [Inhabited β] (arr : Array β) :
    ∀ n ≤ arr.size, ((List.range' 0 n).foldl (fun acc k => acc.push arr[k]!) #[]).toList = arr.toList.take n
  | 0, _ => rfl
  | n + 1, h => by
    rw [List.range'_concat, List.foldl_append, List.foldl_cons, List.foldl_nil, Array.toList_push,
      foldl_range'_push arr n (by omega)]
    simp [List.take_add_one, getElem!_pos arr n (by omega), Array.getElem?_eq_getElem (by omega : n < arr.size)]

end Loops

/-! ## The plan -/

/-- A row of a table as a FROM item gives it: the rowid, then the columns. -/
def StoredRow.led (row : StoredRow) : Array SqlValue := #[SqlValue.integer row.1] ++ row.2

/-- An inner FROM item of one table without a join condition is the table's
rows, each led by its rowid. -/
theorem joinSources_table (fuel : Nat) (env : Env) (name : String) (w : Nat) (ctx : EvalContext) (st : EvalState)
    {t : Table} (found : ctx.db.table? name = some t) (rowid : t.withoutRowid = false) :
    joinSources (fuel + 2) env [.mk .inner (.table name) w none] ctx st = .ok (t.rows.map StoredRow.led, st) := by
  simp [joinSources, sourceRows, found, rowid, Database.scanRows]
  let rows := t.rows.map StoredRow.led
  -- the loop over the table's rows pushes each of them; the matches it records are not read
  rw [eval_forIn_yield (List.range' 0 t.rows.size) (fun s k => (s.1.push rows[k]!,
    if k < s.2.1.size then s.2.1.setIfInBounds k true else s.2.1, true))]
  · have copied : ((List.range' 0 t.rows.size).foldl (fun s k => (s.1.push rows[k]!,
        if k < s.2.1.size then s.2.1.setIfInBounds k true else s.2.1, true))
          (#[], Array.replicate t.rows.size false, false)).1 = rows := by
      refine (foldl_fst _ (fun (a : Array (Array SqlValue)) k => a.push rows[k]!) _ _).trans (Array.ext' ?_)
      have size : rows.size = t.rows.size := Array.size_map ..
      rw [← size, foldl_range'_push rows rows.size (Nat.le_refl _), ← Array.length_toList, List.take_length]
    simp only [copied]
    rfl
  · intro k s
    split <;> rfl

/-- The pure terms a SELECT from one table is to resolve to: the table and
the width of its rows, the filter, the outputs, and the names of the result
columns. -/
structure SelectPlan where
  table : String
  width : Nat
  filter : PureTerm
  outputs : PureTerms
  names : List String

namespace SelectPlan

variable (sp : SelectPlan)

/-- The plan of the SELECT: one inner FROM item, a WHERE clause, the
outputs, and nothing else. -/
def plan : Plan :=
  .select [.mk .inner (.table sp.table) sp.width none] (some sp.filter.toTerm) [] false [] none [] sp.outputs.toTerms
    none [] none none

/-- The rows a table gives the plan: the outputs of the rows that pass the
filter, in table order. -/
def selected (params : Array SqlValue) (t : Table) : Array (Array SqlValue) :=
  (((t.rows.toList.map StoredRow.led).filter fun r => (sp.filter.eval params [{ row := r }]).truthOr false).map
    fun r => (sp.outputs.eval params [{ row := r }]).toArray).toArray

/-- The plan of a SELECT of pure outputs from the rows of one table that pass
a pure filter gives those rows' outputs and keeps the evaluation state. -/
theorem runPlan_select_pure (fuel : Nat) (ctx : EvalContext) (st : EvalState) {t : Table}
    (found : ctx.db.table? sp.table = some t) (rowid : t.withoutRowid = false) (hf : sp.filter.depth < fuel + 2)
    (ho : sp.outputs.depth < fuel + 2) :
    runPlan (fuel + 3) [] sp.plan ctx st = .ok (sp.selected ctx.params t, st) := by
  simp [plan, runPlan, limitTerm, joinSources_table (fuel + 0) [] sp.table sp.width ctx st found rowid]
  -- the streaming loop: no limit, so every row is looked at
  rw [← Array.forIn_toList, eval_forIn_yield _ (fun out row =>
    if (sp.filter.eval ctx.params [{ row := row.led }]).truthOr false then
      out.push (sp.outputs.eval ctx.params [{ row := row.led }]).toArray
    else out)]
  · simp only [foldl_pushIf, cutRows, Array.empty_append, List.toList_toArray, selected, List.filter_map,
      List.map_map]
    rfl
  · intro row out
    simp only [eval_bind_apply, PureTerm.evalTerm_toTerm _ _ _ _ _ hf]
    split
    · simp [PureTerms.evalTerms_toTerms _ _ _ _ _ ho, StoredRow.led]
    · rfl

/-! ## Checking a query against the plan -/

/-- Whether a resolved plan is the plan, up to the terms it resolved to. -/
def accepts : Plan → Bool
  | .select [.mk .inner (.table name) w none] (some f) [] false [] none [] outs none [] none none =>
    name == sp.table && w == sp.width && sp.filter.matches f && sp.outputs.matches outs
  | _ => false

/-- Whether a query resolves to the plan on a database, with terms shallow
enough for the engine's fuel. -/
def fits (db : Database) (q : Query) : Bool :=
  (match Resolve.resolveQuery db q with
    | .ok r => sp.accepts r.plan && r.display.toList == sp.names
    | .error _ => false) &&
  decide (sp.filter.depth < 99999) && decide (sp.outputs.depth < 99999)

/-- What `fits` checks, as facts. -/
structure Fits (db : Database) (q : Query) : Prop where
  resolved : ∃ r, Resolve.resolveQuery db q = .ok r ∧ r.plan = sp.plan ∧ r.display.toList = sp.names
  shallowFilter : sp.filter.depth < 99999
  shallowOutputs : sp.outputs.depth < 99999

theorem accepts_sound {p : Plan} (h : sp.accepts p = true) : p = sp.plan := by
  unfold accepts at h
  split at h
  · simp only [Bool.and_eq_true, beq_iff_eq] at h
    obtain ⟨⟨⟨rfl, rfl⟩, hf⟩, ho⟩ := h
    rw [PureTerm.matches_sound _ _ hf, PureTerms.matches_sound _ _ ho]
    rfl
  · cases h

theorem fits_sound {db : Database} {q : Query} (h : sp.fits db q = true) : sp.Fits db q := by
  simp only [fits, Bool.and_eq_true, decide_eq_true_eq] at h
  obtain ⟨⟨resolves, hf⟩, ho⟩ := h
  refine ⟨?_, hf, ho⟩
  cases hq : Resolve.resolveQuery db q with
  | error e => simp [hq] at resolves
  | ok r =>
    simp only [hq, Bool.and_eq_true, beq_iff_eq] at resolves
    exact ⟨r, rfl, sp.accepts_sound resolves.1, resolves.2⟩

/-- A query resolves on every database of one schema as on any other. -/
theorem Fits.schema {db db₀ : Database} {q : Query} (checked : sp.Fits db₀ q)
    (same : Resolve.schemaView db = Resolve.schemaView db₀) : sp.Fits db q := by
  have resolves : Resolve.resolveQuery db q = Resolve.resolveQuery db₀ q := by
    simp only [Resolve.resolveQuery, same]
  obtain ⟨r, hr, rest⟩ := checked.resolved
  exact ⟨⟨r, resolves.trans hr, rest⟩, checked.shallowFilter, checked.shallowOutputs⟩

end SelectPlan

/-! ## The statement as a connection runs it -/

/-- A SELECT that resolves to a plan of one table changes nothing and gives
the rows the plan selects, under the names of its result columns. -/
theorem Connection.execute_select (c : Connection) (params : Array SqlValue) {sp : SelectPlan} {q : Query}
    (checked : sp.Fits c.db q) {t : Table} (found : c.db.table? sp.table = some t) (rowid : t.withoutRowid = false) :
    c.execute params (.query q) = (c, .ok { columns := sp.names, rows := sp.selected params t }) := by
  obtain ⟨r, resolved, planned, named⟩ := checked.resolved
  have ran := sp.runPlan_select_pure 99997 { db := c.db, params } { random := c.db.random, once := [] } found rowid
    (by have := checked.shallowFilter; omega) (by have := checked.shallowOutputs; omega)
  simp only [Connection.execute, resolved, Database.runEval, Database.runEvalOnce, StateT.run, ReaderT.run,
    planned, named]
  rw [ran]

end ReportExport.Sql
