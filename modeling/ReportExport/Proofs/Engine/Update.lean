import ReportExport.Proofs.Engine.Row

/-!
# UPDATE of one row by pure terms

An UPDATE whose SET list and WHERE clause resolve to pure terms, on a table
without triggers, generated columns or unique indexes, is what the export
repository runs for every change of status. This module computes what such
a statement does when its WHERE clause selects at most one row:

* no row selected: nothing changes and the count is zero;
* one row selected: its new values are the SET terms evaluated on the old
  row; the CHECK constraints that read a written column are evaluated on
  the new row, the first that is false failing the statement; otherwise the
  row is replaced in place and the foreign keys are checked.

`PlainUpdate` gathers what the engine must know of the statement and the
database (the resolved terms, and the absence of what would make the
statement do more); `PlainUpdate.update_eq` is the computation.
-/

namespace ReportExport.Sql

open Text

/-! ## The statement -/

/-- What the engine must know of an UPDATE of the table `name` with SET list
`sets` and WHERE clause `f` (no WITH, conflict clause, alias, FROM or
RETURNING) for it to be a plain replacement of the rows it selects: the
target table, the SET list and WHERE resolved to pure terms, the CHECK
constraints the written columns bring into play resolved to pure terms, and
the absence of views, triggers, generated columns and unique indexes. -/
structure PlainUpdate (db : Database) (name : String) (sets : List Assignment) (f : Expr) where
  table : Table
  /-- the written columns with their new values -/
  writes : List (Nat × PureTerm)
  filter : PureTerm
  typing : Resolve.Typing
  checks : List (CheckConstraint × PureTerm × Resolve.Typing)
  noView : db.triggeredView name (.update []) = none
  target : db.targetIn {} name = .ok table
  current : db.table? table.name = some table
  resolvedSets : db.resolveSets table [Resolve.tableLevel table table.name] [] sets =
    .ok (writes.map fun w => ([some w.1], w.2.toTerm))
  targets : Database.setTargets table sets = .ok (writes.map fun w => [some w.1])
  resolvedFilter :
    Resolve.resolveIn db [Resolve.tableLevel table table.name] [] [f] = .ok [(filter.toTerm, typing)]
  keepsRowid : ∀ w ∈ writes, some w.1 ≠ table.rowidColumn
  noTriggers : db.hasTriggers table.name = false
  noGenerated : db.generators table = .ok []
  changed : table.changedWith false (table.columns.size + 1) (writes.map (·.1)) = writes.map (·.1)
  hasRowid : table.withoutRowid = false
  noUnique : (db.indexesOf table.name).filter (·.unique) = []
  checksSelected :
    table.checks.filter (fun ck => Expr.mentions (table.namesAt (writes.map (·.1))) 200 ck.e) = checks.map (·.1)
  resolvedChecks : Resolve.resolveOver db (some (Resolve.tableLevel table table.name)) [] (checks.map (·.1.e)) =
    .ok (checks.map fun c => (c.2.1.toTerm, c.2.2))
  shallowFilter : filter.depth < 100000
  shallowWrites : ∀ w ∈ writes, w.2.depth < 100000
  shallowChecks : ∀ c ∈ checks, c.2.1.depth < 100000

namespace PlainUpdate

variable {db : Database} {name : String} {sets : List Assignment} {f : Expr}
  (u : PlainUpdate db name sets f) (params : Array SqlValue)

/-- Whether the WHERE clause selects a row. -/
def selects (row : StoredRow) : Bool := (u.filter.eval params [u.table.scopeOf row.1 row.2]).truthOr false

/-- The values of a row after the SET list. -/
def newValues (row : StoredRow) : Array SqlValue :=
  u.table.written row.2 (u.writes.map fun w => (w.1, w.2.eval params [u.table.scopeOf row.1 row.2]))

/-- The foreign keys to check after a row of the table changed: those of its
own rows, and all rows that may refer to it. -/
def parentsAfter (db' : Database) : List String :=
  if db'.foreignKeysOn && db'.tables.any (fun c => c.foreignKeys.any (sameName ·.parent u.table.name))
  then [u.table.name] else []

/-- What the UPDATE does when its WHERE clause selects at most one row (of
rows with distinct rowids, each holding its rowid in the rowid column) and
the NOT NULL columns it writes get values. -/
theorem update_eq
    (keys : (u.table.rows.toList.map (·.1)).Nodup)
    (rowids : ∀ row ∈ u.table.rows.toList, ∀ p, u.table.rowidColumn = some p →
      (u.newValues params row)[p]? = some (.integer row.1))
    (atMostOne : (u.table.rows.toList.filter (u.selects params)).length ≤ 1)
    (filled : ∀ row ∈ u.table.rows.toList, u.selects params row → ∀ i < u.table.columns.size,
      (u.table.columns[i]!).notNull.isSome → i ∈ u.writes.map (·.1) → u.table.rowidColumn ≠ some i →
        ((u.newValues params row)[i]!).isNull = false) :
    db.update params {} statementTriggers none none name none sets none (some f) [] =
      match u.table.rows.toList.find? (u.selects params) with
      | none => .ok { db, count := 0 }
      | some row =>
        match firstFalse params [u.table.scopeOf row.1 (u.newValues params row)] u.checks with
        | some c => .error { error := .constraint 275 ("CHECK constraint failed: " ++ c.1.name) }
        | none =>
          let db' := db.setTable (u.table.putRow row.1 (u.newValues params row))
          match db'.checkForeignKeys [(u.table.name, row.1)] (u.parentsAfter db') with
          | .ok () => .ok { db := db', count := 1 }
          | .error e => .error { error := e } := by
  have rowidChanged :
      ((u.writes.map fun w => [some w.1]).flatten.any fun c => c.isNone || c == u.table.rowidColumn) = false := by
    simpa using u.keepsRowid
  simp only [Database.update, u.target, u.resolvedSets, u.targets, u.resolvedFilter, lift, u.noTriggers,
    Database.scanRows, u.hasRowid, Option.isNone_none, Option.getD_none, if_true, pure_bind,
    List.head?_cons, Option.map_some, rowidChanged, Bool.false_eq_true, if_false]
  -- the scan collects the selected rows and changes nothing
  rw [← Array.forIn_toList, forIn_eq_foldl u.table.rows.toList
    (fun st x => (st.1, if u.selects params x then
      st.2.push (x.1, x.2, (none : Option (List (Option Nat × SqlValue)))) else st.2)) _ ?scan]
  case scan =>
    intro x _ st
    rw [Database.runEval_pure _ _ _ u.shallowFilter]
    cases hsel : u.selects params x <;> simp [selects] at hsel <;> simp [hsel]
  rw [foldl_push_filter, ← List.head?_filter]
  simp only [except_ok_bind, u.noGenerated, List.isEmpty_nil, if_true, Array.empty_append, pure_bind,
    List.forIn_toArray]
  rcases hsel : u.table.rows.toList.filter (u.selects params) with _ | ⟨row, _ | ⟨row', rest⟩⟩
  · simp [Database.checkForeignKeys_nothing]
  · have hmem : row ∈ u.table.rows.toList := List.mem_of_mem_filter (by rw [hsel]; simp)
    have selected : u.selects params row = true := by
      have : row ∈ u.table.rows.toList.filter (u.selects params) := by rw [hsel]; simp
      exact (List.mem_filter.1 this).2
    have hcur : db.current u.table = u.table := by simp [Database.current, u.current]
    have hcs : List.filterMap id (List.map (fun w => [some w.fst]) u.writes).flatten = u.writes.map (·.1) := by
      generalize u.writes = ws
      induction ws with
      | nil => rfl
      | cons w ws ih => simpa using ih
    have hgen : ∀ vals, db.generate u.table [] vals = .ok (vals, db) := fun _ => rfl
    have hnv : u.table.written row.2 (u.writes.map fun w => (w.1, w.2.eval params [u.table.scopeOf row.1 row.2])) =
        u.newValues params row := rfl
    -- the one selected row: its new values, then its check
    simp only [List.map_cons, List.map_nil, List.forIn_cons, List.forIn_nil, hcur,
      Table.row?_of_mem u.table keys hmem, Option.isSome_none, Bool.false_or, Bool.false_eq_true, if_false,
      Database.assign_pure db params [] u.table row.1 row.2 u.writes u.shallowWrites (rowids row hmem),
      pure_bind]
    simp only [hgen, pure_bind, hcur, hcs, u.changed, Bool.false_and, bne_self_eq_false,
      Bool.false_eq_true, if_false]
    rw [hnv, Database.checkRow_plain db params u.table row.1 _ (u.writes.map (·.1)) u.checks u.hasRowid u.noUnique
      (filled row hmem selected) u.checksSelected u.resolvedChecks u.shallowChecks]
    cases hff : firstFalse params [u.table.scopeOf row.1 (u.newValues params row)] u.checks with
    | some c => simp [hff]
    | none =>
      simp only [hff, except_ok_bind, hcur, Bool.not_true, Bool.false_eq_true, if_false, List.head?_cons,
        parentsAfter]
      split <;>
      · simp only [except_pure, except_ok_bind, Nat.zero_add, List.nil_append]
        -- the statement and the run match on the same foreign-key check
        generalize Database.checkForeignKeys _ _ _ = check
        cases check with
        | ok => simp only [ExceptT.stM_eq]
        | error e => simp only [ExceptT.stM_eq, stopWith]; rfl
  · rw [hsel] at atMostOne
    simp at atMostOne

/-- The UPDATE as a connection runs it. -/
theorem execute_eq (c : Connection) (u : PlainUpdate c.db name sets f) (params : Array SqlValue) :
    c.execute params (.update none none name none sets none (some f) []) =
      c.change (c.db.update params {} statementTriggers none none name none sets none (some f) []) := by
  simp only [Connection.execute, Database.changeRows, u.noView, Option.orElse_none]

end PlainUpdate

end ReportExport.Sql
