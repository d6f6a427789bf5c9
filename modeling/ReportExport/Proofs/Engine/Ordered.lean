import ReportExport.Proofs.Engine.Select

/-!
# SELECT from one table in the order of one key

The repository lists records with a SELECT of the columns of
`report_exports` that keeps the rows matching a parameter and orders them by
id. Such a statement resolves to the plan of `Select.lean` with one sort key
added; the key takes the engine off its streaming path, so the rows that
pass the filter are collected first, each is given its key and its outputs,
and the list is sorted stably by key.

* `OrderedPlan.runPlan_ordered`: what the plan gives, and that it leaves the
  evaluation state alone;
* `Connection.execute_ordered`: run by a connection, the statement changes
  nothing.

As for a `SelectPlan`, `OrderedPlan.fits` checks that a query resolves to the
plan on one database, and `OrderedPlan.Fits.schema` carries the check to
every database of the same schema.
-/

namespace ReportExport.Sql

open Text

/-- A SELECT of pure terms from one table, ordered by one pure key: the key's
direction, the place of NULLs and the collation of text. -/
structure OrderedPlan extends SelectPlan where
  key : PureTerm
  descending : Bool
  nullsFirst : Bool
  collation : Collation

namespace OrderedPlan

variable (op : OrderedPlan)

/-- The sort key of the plan. -/
def sortKey : SortKey := .mk op.key.toTerm op.descending op.nullsFirst op.collation

/-- The plan of the SELECT: one inner FROM item, a WHERE clause, the outputs
and one sort key. -/
def plan : Plan :=
  .select [.mk .inner (.table op.table) op.width none] (some op.filter.toTerm) [] false [] none [] op.outputs.toTerms
    none [op.sortKey] none none

/-- The rows a table gives the plan: the outputs of the rows that pass the
filter, sorted stably by the key. -/
def ordered (params : Array SqlValue) (t : Table) : Array (Array SqlValue) :=
  ((stableSortBy [(op.descending, op.nullsFirst, op.collation)]
    (((t.rows.toList.map StoredRow.led).filter fun r => (op.filter.eval params [{ row := r }]).truthOr false).map
      fun r => ([op.key.eval params [{ row := r }]], (op.outputs.eval params [{ row := r }]).toArray))).map
    (·.2)).toArray

/-- The plan of an ordered SELECT of pure outputs from the rows of one table
that pass a pure filter gives those rows' outputs in key order and keeps the
evaluation state. -/
theorem runPlan_ordered (fuel : Nat) (ctx : EvalContext) (st : EvalState) {t : Table}
    (found : ctx.db.table? op.table = some t) (rowid : t.withoutRowid = false) (hf : op.filter.depth < fuel + 2)
    (ho : op.outputs.depth < fuel + 2) (hk : op.key.depth < fuel + 1) :
    runPlan (fuel + 3) [] op.plan ctx st = .ok (op.ordered ctx.params t, st) := by
  simp [plan, runPlan, limitTerm, sortKey, joinSources_table (fuel + 0) [] op.table op.width ctx st found rowid]
  -- the first loop keeps the rows that pass the filter
  rw [← Array.forIn_toList, eval_forIn_yield _ (fun out (row : StoredRow) =>
    if (op.filter.eval ctx.params [{ row := row.led }]).truthOr false then out.push row.led else out)]
  · simp only [foldl_pushIf, windowScopes]
    simp
    -- the second gives each kept row its key and its outputs
    rw [eval_forIn_yield _ (fun out (row : StoredRow) =>
      out.push ([op.key.eval ctx.params [{ row := row.led }]],
        (op.outputs.eval ctx.params [{ row := row.led }]).toArray))]
    · simp [ordered, cutRows, SortKey.spec, List.filter_map, Function.comp_def]
    · intro row out
      have keyed := PureTerms.evalTerms_toTerms (.cons op.key .nil) (fuel + 2) [{ row := row.led }] ctx st
        (by simp only [PureTerms.depth]; omega)
      simp only [PureTerms.toTerms, PureTerms.eval] at keyed
      simp [PureTerms.evalTerms_toTerms _ _ _ _ _ ho, SortKey.term, keyed]
  · intro row out
    simp only [eval_bind_apply, PureTerm.evalTerm_toTerm _ _ _ _ _ hf]
    split <;> rfl

/-! ## Checking a query against the plan -/

/-- Whether a resolved plan is the plan, up to the terms it resolved to. -/
def accepts : Plan → Bool
  | .select [.mk .inner (.table name) w none] (some f) [] false [] none [] outs none [.mk k d n c] none none =>
    name == op.table && w == op.width && op.filter.matches f && op.outputs.matches outs && op.key.matches k &&
      d == op.descending && n == op.nullsFirst && c == op.collation
  | _ => false

/-- Whether a query resolves to the plan on a database, with terms shallow
enough for the engine's fuel. -/
def fits (db : Database) (q : Query) : Bool :=
  (match Resolve.resolveQuery db q with
    | .ok r => op.accepts r.plan && r.display.toList == op.names
    | .error _ => false) &&
  decide (op.filter.depth < 99999) && decide (op.outputs.depth < 99999) && decide (op.key.depth < 99998)

/-- What `fits` checks, as facts. -/
structure Fits (db : Database) (q : Query) : Prop where
  resolved : ∃ r, Resolve.resolveQuery db q = .ok r ∧ r.plan = op.plan ∧ r.display.toList = op.names
  shallowFilter : op.filter.depth < 99999
  shallowOutputs : op.outputs.depth < 99999
  shallowKey : op.key.depth < 99998

theorem accepts_sound {p : Plan} (h : op.accepts p = true) : p = op.plan := by
  unfold accepts at h
  split at h
  · simp only [Bool.and_eq_true, beq_iff_eq] at h
    obtain ⟨⟨⟨⟨⟨⟨⟨rfl, rfl⟩, hf⟩, ho⟩, hk⟩, rfl⟩, rfl⟩, rfl⟩ := h
    rw [PureTerm.matches_sound _ _ hf, PureTerms.matches_sound _ _ ho, PureTerm.matches_sound _ _ hk]
    rfl
  · cases h

theorem fits_sound {db : Database} {q : Query} (h : op.fits db q = true) : op.Fits db q := by
  simp only [fits, Bool.and_eq_true, decide_eq_true_eq] at h
  obtain ⟨⟨⟨resolves, hf⟩, ho⟩, hk⟩ := h
  refine ⟨?_, hf, ho, hk⟩
  cases hq : Resolve.resolveQuery db q with
  | error e => simp [hq] at resolves
  | ok r =>
    simp only [hq, Bool.and_eq_true, beq_iff_eq] at resolves
    exact ⟨r, rfl, op.accepts_sound resolves.1, resolves.2⟩

/-- A query resolves on every database of one schema as on any other. -/
theorem Fits.schema {db db₀ : Database} {q : Query} (checked : op.Fits db₀ q)
    (same : Resolve.schemaView db = Resolve.schemaView db₀) : op.Fits db q := by
  have resolves : Resolve.resolveQuery db q = Resolve.resolveQuery db₀ q := by
    simp only [Resolve.resolveQuery, same]
  obtain ⟨r, hr, rest⟩ := checked.resolved
  exact ⟨⟨r, resolves.trans hr, rest⟩, checked.shallowFilter, checked.shallowOutputs, checked.shallowKey⟩

end OrderedPlan

/-! ## The statement as a connection runs it -/

/-- An ordered SELECT that resolves to a plan of one table changes nothing and
gives the rows the plan orders, under the names of its result columns. -/
theorem Connection.execute_ordered (c : Connection) (params : Array SqlValue) {op : OrderedPlan} {q : Query}
    (checked : op.Fits c.db q) {t : Table} (found : c.db.table? op.table = some t) (rowid : t.withoutRowid = false) :
    c.execute params (.query q) = (c, .ok { columns := op.names, rows := op.ordered params t }) := by
  obtain ⟨r, resolved, planned, named⟩ := checked.resolved
  have ran := op.runPlan_ordered 99997 { db := c.db, params } { random := c.db.random, once := [] } found rowid
    (by have := checked.shallowFilter; omega) (by have := checked.shallowOutputs; omega)
    (by have := checked.shallowKey; omega)
  simp only [Connection.execute, resolved, Database.runEval, Database.runEvalOnce, StateT.run, ReaderT.run,
    planned, named]
  rw [ran]

end ReportExport.Sql
