import ReportExport.Proofs.Engine.Row

/-!
# INSERT of one row of pure terms

The export repository creates a record with one INSERT of a VALUES row
whose terms are parameters and literals, into a table with an
AUTOINCREMENT rowid, RETURNING columns of the new row. This module computes
what such a statement does:

* the new rowid is one past the larger of the table's largest rowid and its
  AUTOINCREMENT mark (`Table.lastRowid`), and the statement fails when that
  is the largest integer;
* the row holds each value under its column's affinity, NULL in the columns
  not named, and the rowid in the rowid column (`PlainInsert.rowValues`);
* the first false CHECK constraint fails the statement; otherwise the row
  is stored, the mark raised, the RETURNING terms evaluated on the row, and
  the foreign keys of the new row checked.

`PlainInsert` gathers what the engine must know of the statement and the
database; `PlainInsert.insert_eq` is the computation.
-/

namespace ReportExport.Sql

open Text

/-- The largest rowid a table with AUTOINCREMENT has used: its largest
rowid, or the mark it keeps if that is larger. -/
def Table.lastRowid (t : Table) (db : Database) : Int := max t.maxRowid (db.sequenceOf t.name)

/-- What the engine must know of an INSERT into the table `name` of the
columns `columns` from the query `q` (a VALUES row), RETURNING `returning`
(no WITH, conflict clause, alias or upsert), for it to store exactly one row
built from pure terms: the target table, whose rowid is its first column,
the row and the RETURNING list resolved to pure terms, every CHECK
constraint resolved to a pure term, and the absence of views, triggers,
generated columns, unique indexes and defaults for the columns not named. -/
structure PlainInsert (db : Database) (name : String) (columns : List String) (q : Query)
    (returning : List ResultColumn) where
  table : Table
  /-- the column each value of the row goes to -/
  targets : List Nat
  values : PureTerms
  resolved : Resolve.Resolved
  retNames : List String
  returns : PureTerms
  checks : List (CheckConstraint × PureTerm × Resolve.Typing)
  noView : db.triggeredView name .insert = none
  target : db.targetIn {} name = .ok table
  current : db.table? table.name = some table
  inserting : Database.insertTargets table (some columns) = .ok (targets.map some)
  even : Database.unevenValues q = false
  resolvedRow : Resolve.resolveQueryIn db [] none q = .ok resolved
  plan : resolved.plan = .values [values.toTerms]
  width : resolved.columns.size = columns.length
  arity : targets.length = values.toTerms.length
  noGenerated : db.generators table = .ok []
  returningGiven : returning.isEmpty = false
  resolvedReturning :
    Resolve.resolveReturning db (Resolve.tableLevel table table.name) returning = .ok (retNames, returns.toTerms)
  someReturns : returns.toTerms.isEmpty = false
  noTriggers : db.hasTriggers table.name = false
  hasRowid : table.withoutRowid = false
  notStrict : table.strict = false
  autoincrement : table.autoincrement = true
  rowidColumn : table.rowidColumn = some 0
  rowidUntargeted : 0 ∉ targets
  someColumn : 0 < table.columns.size
  untargeted : ∀ j < table.columns.size, j ∉ targets → (table.columns[j]!).default = none
  noUnique : (db.indexesOf table.name).filter (·.unique) = []
  allChecks : table.checks = checks.map (·.1)
  resolvedChecks : Resolve.resolveOver db (some (Resolve.tableLevel table table.name)) [] (checks.map (·.1.e)) =
    .ok (checks.map fun c => (c.2.1.toTerm, c.2.2))
  shallowValues : values.depth < 99999
  shallowReturns : returns.depth < 100000
  shallowChecks : ∀ c ∈ checks, c.2.1.depth < 100000

namespace PlainInsert

variable {db : Database} {name : String} {columns : List String} {q : Query} {returning : List ResultColumn}
  (u : PlainInsert db name columns q returning) (params : Array SqlValue)

/-- The values of the VALUES row. -/
def source : Array SqlValue := (u.values.eval params [{}]).toArray

/-- The value a column of the new row gets: its value from the VALUES row
under its affinity, or NULL. -/
def cell (j : Nat) : SqlValue :=
  match ((u.targets.map some).idxOf? (some j)).bind ((u.source params)[·]?) with
  | some v => v.stored (u.table.columns[j]!).affinity
  | none => .null

/-- The new row under a rowid. -/
def rowValues (rowid : Int) : Array SqlValue :=
  ((List.range' 0 u.table.columns.size).map (u.cell params)).toArray.set! 0 (.integer rowid)

/-- The VALUES row is evaluated once, and changes nothing. -/
theorem insertRows_eq :
    db.insertRows params {} none u.table.name u.table.givenColumns.length (some columns) (.query q) =
      .ok (#[(u.values.eval params [{}]).toArray], db) := by
  simp only [Database.insertRows, u.even, Bool.false_eq_true, if_false, lift, u.resolvedRow, pure_bind,
    u.width, bne_self_eq_false, u.plan]
  simp [Database.runEval, Database.runEvalOnce, StateT.run, ReaderT.run,
    runPlan_values u.values 99999 [] _ _ u.shallowValues]

/-- The rowid column is not named, so the row leaves the choice of rowid to
the table. -/
theorem cell_rowid : u.cell params 0 = .null := by
  have unnamed : (u.targets.map some).idxOf? (some 0) = none :=
    List.idxOf?_eq_none_iff.2 (by simpa using u.rowidUntargeted)
  simp [cell, unnamed]

/-- The columns of the new row other than the rowid are its cells. -/
theorem rowValues_getElem (rowid : Int) {i : Nat} (hi : i < u.table.columns.size) (hi0 : i ≠ 0) :
    (u.rowValues params rowid)[i]! = u.cell params i := by
  simp [rowValues, Ne.symm hi0, hi]

/-- What the INSERT does, when the rowids of the table are at most its
largest (as they are when its rows are in rowid order) and the NOT NULL
columns get values. -/
theorem insert_eq (bounded : ∀ row ∈ u.table.rows.toList, row.1 ≤ u.table.maxRowid)
    (filled : ∀ i < u.table.columns.size, (u.table.columns[i]!).notNull.isSome → i ≠ 0 →
      (u.cell params i).isNull = false) :
    db.insert params {} statementTriggers none none name none (some columns) (.query q) [] returning =
      if u.table.lastRowid db ≥ maxInteger then .error { error := { code := 13, message := "database or disk is full" } }
      else
        let rowid := u.table.lastRowid db + 1
        let vals := u.rowValues params rowid
        match firstFalse params [u.table.scopeOf rowid vals] u.checks with
        | some c => .error { error := .constraint 275 ("CHECK constraint failed: " ++ c.1.name) }
        | none =>
          let db' := ({ (db.setTable (u.table.putRow rowid vals)) with lastRowid := rowid }).markSequence
            u.table.name rowid
          let row := (u.returns.eval params [u.table.scopeOf rowid vals]).toArray
          match db'.checkForeignKeys [(u.table.name, rowid)] [] with
          | .ok () => .ok { db := db', count := 1, columns := u.retNames, returned := #[row] }
          | .error e => .error { error := e } := by
  have hcur : db.current u.table = u.table := by simp [Database.current, u.current]
  -- the statement's join points are only substituted once its branches are settled
  unfold Database.insert
  simp -zeta only [u.target, lift, u.inserting, pure_bind]
  rw [u.insertRows_eq params]
  simp -zeta only [except_ok_bind, u.noGenerated, List.forIn_nil, u.returningGiven, Bool.false_eq_true, if_false,
    List.mapM_nil]
  simp only [u.noTriggers]
  simp only [pure_bind, Option.getD_none, u.resolvedReturning, Bool.and_false, Bool.false_eq_true, if_false,
    List.isEmpty_nil, if_true, List.forIn_toArray, List.forIn_cons, List.forIn_nil, hcur,
    Std.Legacy.Range.forIn_eq_forIn_range', Std.Legacy.Range.size]
  -- the row: a value for each named column, NULL for the others
  rw [forIn_eq_foldl _ (fun st j => (st.1, st.2.push (u.cell params j))) _ ?fill]
  case fill =>
    intro j hj st
    have hlt : j < u.table.columns.size := by simp at hj; omega
    unfold cell source
    cases hv : (List.idxOf? (some j) (u.targets.map some)).bind
        (fun x => (PureTerms.eval params [{}] u.values).toArray[x]?) with
    | some v => simp
    | none =>
      have hdef : (u.table.columns[j]!).default = none := by
        apply u.untargeted j hlt
        intro hmem
        obtain ⟨k, hk⟩ : ∃ k, (u.targets.map some).idxOf? (some j) = some k :=
          Option.isSome_iff_exists.1 (List.isSome_idxOf?.2 (List.mem_map_of_mem hmem))
        have hklt : k < u.targets.length := by simpa using (List.idxOf?_eq_some_iff.1 hk).1
        simp [hk, PureTerms.length_eval, ← u.arity, hklt] at hv
      simp [hdef]
  rw [foldl_push]
  have hnull : ((List.range' 0 u.table.columns.size).map (u.cell params)).toArray[0]! = .null := by
    obtain ⟨n, hn⟩ : ∃ n, u.table.columns.size = n + 1 := ⟨_, (Nat.succ_pred_eq_of_pos u.someColumn).symm⟩
    rw [hn, List.range'_succ, List.map_cons]
    exact u.cell_rowid params
  have hnew : db.newRowid u.table = if u.table.lastRowid db ≥ maxInteger then
      .error { code := 13, message := "database or disk is full" }
      else .ok (u.table.lastRowid db + 1, db) := by
    simp [Database.newRowid, u.autoincrement, Table.lastRowid]
  simp only [Nat.sub_zero, Nat.add_sub_cancel, Nat.div_one, except_ok_bind, Array.empty_append, u.rowidColumn,
    hnull, hcur, hnew]
  by_cases hfull : u.table.lastRowid db ≥ maxInteger
  · rw [if_pos hfull, if_pos hfull]
    rfl
  rw [if_neg hfull, if_neg hfull]
  have hgen : ∀ vals, db.generate u.table [] vals = .ok (vals, db) := fun _ => rfl
  simp only [hgen, u.notStrict, Bool.false_eq_true, if_false, pure_bind]
  have hv : (List.map (u.cell params) (List.range' 0 u.table.columns.size)).toArray.set! 0
      (SqlValue.integer (u.table.lastRowid db + 1)) = u.rowValues params (u.table.lastRowid db + 1) := rfl
  rw [hv, Database.checkRow_fresh db params u.table _ _ u.checks u.hasRowid u.noUnique ?filled u.allChecks
    u.resolvedChecks u.shallowChecks ?fresh]
  case filled =>
    intro i hi hnn hrow
    have hi0 : i ≠ 0 := fun h => hrow (by rw [u.rowidColumn, h])
    rw [u.rowValues_getElem params _ hi hi0]
    exact filled i hi hnn hi0
  case fresh =>
    -- the new rowid is past every rowid of the table
    rw [hcur]
    simp only [Table.row?, Option.map_eq_none_iff, Array.find?_eq_none]
    intro x hx
    have hle := bounded x (by simpa using hx)
    have hmax : u.table.maxRowid ≤ u.table.lastRowid db := Int.le_max_left _ _
    simp only [beq_iff_eq]
    omega
  cases hff : firstFalse params [u.table.scopeOf (u.table.lastRowid db + 1)
    (u.rowValues params (u.table.lastRowid db + 1))] u.checks with
  | some c => rfl
  | none =>
    simp only [except_ok_bind, hcur, u.hasRowid, u.autoincrement, u.someReturns, Bool.not_false, if_true,
      Database.returnRow_pure _ params u.table u.returns _ _ u.shallowReturns]
    simp only [pure_bind, Nat.zero_add, List.nil_append]
    -- the statement and the run match on the same foreign-key check
    generalize Database.checkForeignKeys _ _ _ = check
    cases check with
    | ok => simp only [ExceptT.stM_eq, List.push_toArray, List.nil_append, except_pure]
    | error e =>
      simp only [ExceptT.stM_eq, stopWith, List.push_toArray, List.nil_append, except_pure]
      rfl

/-- The INSERT as a connection runs it. -/
theorem execute_eq (c : Connection) (u : PlainInsert c.db name columns q returning) (params : Array SqlValue) :
    c.execute params (.insert none none name none (some columns) (.query q) [] returning) =
      c.change (c.db.insert params {} statementTriggers none none name none (some columns) (.query q) []
        returning) := by
  simp only [Connection.execute, Database.changeRows, u.noView, Option.orElse_none]

end PlainInsert

end ReportExport.Sql
