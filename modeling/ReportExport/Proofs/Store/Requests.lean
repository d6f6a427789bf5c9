import ReportExport.Proofs.Store.Records
import ReportExport.Proofs.Engine.Plan
import Mathlib.Data.List.Nodup

/-!
# The repository's requests on a store of records

Each request of the export-record repository is one statement over the
table `report_exports`. This module states what each does to a store that
holds a list of records (`Stores`), as a function of that list:

* a change of status (`StatusChange`: dispatch, start, complete, fail) is a
  guarded UPDATE. On the record of the id whose status may move to the new
  one it writes the status, the stamps of the change and the time; it
  reports whether there was such a record, and otherwise changes nothing;
* storing progress writes the count, the total when one is given, and the
  time, on the record of the id; a negative count or total is refused by the
  table's CHECK constraints, and the table stays as it was.

The statements are checked once on the migrated schema (`UpdatePlan.fitsText`),
by the kernel, and what they do follows from `PlainUpdate.update_eq`.
-/

namespace ReportExport.Sql

open Store

/-! ## Statements checked on the migrated schema -/

/-- Whether a text is one UPDATE of the export records, with `n` positional
parameters, that the plan fits on the migrated schema. -/
def UpdatePlan.fitsText (plan : UpdatePlan) (text : String) (n : Nat) : Bool :=
  match updateParts text with
  | some (p, name, sets, f) =>
    name == "report_exports" && p.parameters == n && plan.fits storeSchema exportsTable sets f
  | none => false

theorem UpdatePlan.fitsText_sound {plan : UpdatePlan} {text : String} {n : Nat} (h : plan.fitsText text n = true) :
    ∃ p sets f, updateParts text = some (p, "report_exports", sets, f) ∧ p.parameters = n ∧
      plan.Fits storeSchema exportsTable sets f := by
  unfold fitsText at h
  split at h
  · rename_i p name sets f parts
    simp only [Bool.and_eq_true, beq_iff_eq] at h
    obtain ⟨⟨rfl, count⟩, fits⟩ := h
    exact ⟨p, sets, f, parts, count, plan.fits_sound fits⟩
  · cases h

/-- The truth of an AND of two known truths. -/
theorem PureTerm.eval_and_truthOr {a b : PureTerm} {params : Array SqlValue} {env : Env} {x y : Bool}
    (ha : (a.eval params env).truth? = some x) (hb : (b.eval params env).truth? = some y) :
    ((PureTerm.and a b).eval params env).truthOr false = (x && y) := by
  simp only [PureTerm.eval, ha, hb]
  cases x <;> cases y <;> rfl

end ReportExport.Sql

namespace ReportExport

open Sql Store

/-! ## The plans of the repository's updates -/

/-- A change of status the repository makes, with what it records besides
the new status and the time. -/
inductive StatusChange where
  /-- Pending to dispatched, recording the queue job. -/
  | dispatch (jobId : String)
  /-- Dispatched to processing, stamping the start. -/
  | start
  /-- Processing to completed, stamping the end. -/
  | complete
  /-- Any unfinished status to failed, stamping the failure and its message. -/
  | fail (message : String)

namespace StatusChange

/-- The status a change moves a record to. -/
def target : StatusChange → ExportStatus
  | .dispatch _ => .dispatched
  | .start => .processing
  | .complete => .completed
  | .fail _ => .failed

/-- The columns a change stamps besides the status and the time, in the
order of their parameters. -/
def stamps : StatusChange → List Nat
  | .dispatch _ => [17]
  | .start => [8]
  | .complete => [9]
  | .fail _ => [10, 11]

/-- The terms of a change: the status literal, then the stamps and the time
from the parameters in order, the last parameter naming the record, which
must stand in a status the new one may follow. -/
def plan (c : StatusChange) : UpdatePlan where
  writes := (5, statusTerm c.target) :: ((c.stamps ++ [19]).zipIdx 1).map fun (x : Nat × Nat) => (x.1, .param x.2)
  filter := .and (.compare .eq (.column 0 1) (.param (c.stamps.length + 2)) .integer .binary) (guardTerm c.target)
  checks := [statusCheckTerm]

end StatusChange

/-- The CHECK constraint on the count: not negative. -/
def rowsCheckTerm : PureTerm := .compare .ge (.column 0 7) (.value (.integer 0)) .integer .binary

/-- The CHECK constraint on the total: NULL or not negative. -/
def totalCheckTerm : PureTerm :=
  .or (.compare .is (.column 0 8) (.value .null) .integer .binary)
    (.compare .ge (.column 0 8) (.value (.integer 0)) .integer .binary)

/-- The terms of storing progress: the count, the total or the one stored,
and the time, on the record of the id. -/
def progressPlan : UpdatePlan where
  writes := [(6, .param 1), (7, .coalesce (.cons (.param 2) (.cons (.column 0 8) .nil)) .binary), (19, .param 3)]
  filter := .compare .eq (.column 0 1) (.param 4) .integer .binary
  checks := [rowsCheckTerm, totalCheckTerm]

/-! ## Foreign keys -/

theorem columnIndex_retried : exportsTable.columnIndex? "retried_from_id" = some 12 := by decide +kernel
theorem columnIndex_id : exportsTable.columnIndex? "id" = some 0 := by decide +kernel

/-- Whether the record a record retries, if it names one, is among some
records. -/
def ExportRecord.parentIn (recs : List ExportRecord) (r : ExportRecord) : Bool :=
  r.retriedFromId.all fun p => recs.any (·.id == p)

theorem ExportRecord.parentIn_iff (recs : List ExportRecord) (r : ExportRecord) :
    r.parentIn recs = true ↔ ∀ p, r.retriedFromId = some p → ∃ q ∈ recs, q.id = p := by
  cases hp : r.retriedFromId <;> simp [parentIn, hp]

/-- Whether a check of the foreign keys after a statement reads the row of a
record: every row when the statement may have changed a key they refer to,
else the rows it wrote. -/
def fkChecked (written : List (String × Int)) (parents : List String) (r : ExportRecord) : Bool :=
  parents.any (sameName · "report_exports") || written.any fun w => w.2 == r.id && sameName w.1 "report_exports"

theorem findsParent_record {db : Database} {recs : List ExportRecord} {seq : Array StoredRow}
    (m : Migrated db (recs.map ExportRecord.row).toArray seq) (child : Table) (cols : child.columns = exportsTable.columns)
    (r : ExportRecord) : db.findsParent child retriedKey r.values = r.parentIn recs := by
  -- the key reads the record's `retried_from_id` and finds the parent by its id
  have retried : child.columnIndex? "retried_from_id" = some 12 := by
    rw [Table.columnIndex?, cols]
    exact columnIndex_retried
  have parentKey : Database.parentColumns { exportsTable with rows := (recs.map ExportRecord.row).toArray }
      retriedKey db = [some 0] := by
    have idColumn : ({ exportsTable with rows := (recs.map ExportRecord.row).toArray } : Table).columnIndex? "id" =
        some 0 := columnIndex_id
    simp [Database.parentColumns, retriedKey, idColumn]
  have keyColumns : retriedKey.columns = ["retried_from_id"] := rfl
  have keyParent : retriedKey.parent = "report_exports" := rfl
  have stored : r.values[12]? = some (optInteger r.retriedFromId) := rfl
  have affinity : (exportsTable.columns[0]?.map (·.affinity)).getD .blob = .integer := rfl
  have collation : (exportsTable.columns[0]?.map (·.collation)).getD .binary = .binary := rfl
  simp only [Database.findsParent, keyColumns, keyParent, List.map_cons, List.map_nil, retried, m.table_exports,
    parentKey, stored, Option.bind_some, Option.getD_some, ExportRecord.parentIn]
  cases hp : r.retriedFromId with
  | none => simp [optInteger, SqlValue.isNull]
  | some p =>
    simp only [optInteger, Database.columnValues, affinity, collation]
    simp [SqlValue.isNull]
    congr 1
    funext q
    have first : q.row.2[0]? = some (.integer q.id) := rfl
    simp [first, SqlValue.withAffinity, Affinity.isNumeric, SqlValue.compareWith]

/-- A check of the foreign keys on a migrated database fails exactly when a
row it reads retries a record that is not stored. -/
theorem checkForeignKeys_eq {db : Database} {recs : List ExportRecord} {seq : Array StoredRow}
    (m : Migrated db (recs.map ExportRecord.row).toArray seq) (written : List (String × Int)) (parents : List String) :
    db.checkForeignKeys written parents =
      match recs.find? (fun r => fkChecked written parents r && !r.parentIn recs) with
      | none => .ok ()
      | some _ => .error (.constraint 787 "FOREIGN KEY constraint failed") := by
  obtain ⟨vs, ms, tables⟩ := m.tables
  unfold Database.checkForeignKeys
  rw [m.foreignKeysOn, tables]
  have noKeys : versionTable.foreignKeys = [] ∧ migrationsTable.foreignKeys = [] ∧ sequenceTable.foreignKeys = [] :=
    ⟨rfl, rfl, rfl⟩
  have keys : exportsTable.foreignKeys = [retriedKey] := rfl
  have parentName : retriedKey.parent = "report_exports" := rfl
  have childName : exportsTable.name = "report_exports" := rfl
  simp only [storeTables, Bool.not_true, Bool.false_eq_true, if_false, List.forIn_cons, List.forIn_nil, noKeys, keys,
    List.isEmpty_nil, List.isEmpty_cons, Bool.not_false, if_true, pure_bind, parentName, childName]
  -- the rows of the export records, one per record: the first that is read and
  -- retries a record that is not stored fails the check
  rw [← Array.forIn_toList, List.toList_toArray, List.forIn_map,
    forIn_first_failure _ PUnit.unit (fun r => fkChecked written parents r && !r.parentIn recs)
      (fun _ => SqlError.constraint 787 "FOREIGN KEY constraint failed") _ ?body]
  case body =>
    intro r _
    have parent : ∀ child : Table, child.columns = exportsTable.columns →
        db.findsParent child retriedKey r.values = r.parentIn recs := fun child cols => findsParent_record m child cols r
    simp only [ExportRecord.row, parent, fkChecked]
    by_cases read : ((parents.any fun x => sameName x "report_exports") || written.any fun w => w.2 == r.id &&
      sameName w.1 "report_exports") = true
    · by_cases stored : r.parentIn recs = true
      · simp [read, stored]
      · simp only [read, stored, if_true, Bool.true_and, Bool.not_false]
        rfl
    · simp [read]
  cases recs.find? (fun r => fkChecked written parents r && !r.parentIn recs) <;> rfl

/-- On a migrated database whose export rows are records that only retry
stored records, every check of the foreign keys passes. -/
theorem checkForeignKeys_linked {db : Database} {recs : List ExportRecord} {seq : Array StoredRow}
    (m : Migrated db (recs.map ExportRecord.row).toArray seq) (linked : Linked recs) (written : List (String × Int))
    (parents : List String) : db.checkForeignKeys written parents = .ok () := by
  rw [checkForeignKeys_eq m, List.find?_eq_none.2]
  intro r hr
  have stored : r.parentIn recs = true := (ExportRecord.parentIn_iff recs r).2 (linked r hr)
  simp [stored]

end ReportExport

namespace ReportExport.Store.RecordStore

open Sql

/-- A guarded update of a text that is one UPDATE runs that statement on the
connection. -/
theorem guardedUpdate_single {s : RecordStore} {text : String} {p : Parser.Parsed} {name : String}
    {sets : List Assignment} {f : Expr} (isOpen : s.closed = false)
    (parts : updateParts text = some (p, name, sets, f)) (args : List SqlValue) (count : args.length = p.parameters) :
    s.guardedUpdate text args =
      match s.conn.execute args.toArray (.update none none name none sets none (some f) []) with
      | (c, .error e) => ({ s with conn := c }, .error (.driver (.database e)))
      | (c, .ok _) => ({ s with conn := c }, .ok (decide (0 < c.db.changes))) := by
  obtain ⟨single, statement⟩ := updateParts_spec parts
  simp only [guardedUpdate, execute, run, isOpen, Bool.false_eq_true, if_false,
    Connection.run_single single s.conn args count, statement]
  rcases s.conn.execute args.toArray (.update none none name none sets none (some f) []) with ⟨c, e | rows⟩ <;> rfl

end ReportExport.Store.RecordStore

namespace ReportExport

open Sql Store

/-! ## A guarded update on a store of records -/

/-- Writing values into columns other than `p` leaves what stands at `p`. -/
theorem Table.written_getElem?_of_ne (t : Table) (p : Nat) :
    ∀ (vals : Array SqlValue) (ws : List (Nat × SqlValue)), (∀ w ∈ ws, w.1 ≠ p) → (t.written vals ws)[p]? = vals[p]?
  | _, [], _ => rfl
  | vals, w :: ws, other => by
    rw [Table.written, List.foldl_cons, ← Table.written,
      Table.written_getElem?_of_ne t p _ ws (fun x hx => other x (by simp [hx])), Array.set!_eq_setIfInBounds,
      Array.getElem?_setIfInBounds_ne (other w (by simp))]

/-- The columns of the export records that may not be NULL. -/
theorem exportsTable_required : ∀ i < exportsTable.columns.size, (exportsTable.columns[i]!).notNull.isSome = true →
    i ∈ [1, 2, 3, 4, 5, 6, 13, 14, 15, 18, 19] := by
  decide +kernel

/-- Every column that may not be NULL holds a value in the row of a record. -/
theorem ExportRecord.values_filled (r : ExportRecord) :
    ∀ i < exportsTable.columns.size, (exportsTable.columns[i]!).notNull.isSome = true →
      (r.values[i]!).isNull = false := by
  intro i within required
  have listed := exportsTable_required i within required
  simp only [List.mem_cons, List.not_mem_nil, or_false] at listed
  obtain rfl | rfl | rfl | rfl | rfl | rfl | rfl | rfl | rfl | rfl | rfl := listed <;> rfl

/-- Whether the WHERE clause of a plan selects a record. -/
def Sql.UpdatePlan.selects (plan : UpdatePlan) (params : Array SqlValue) (r : ExportRecord) : Bool :=
  (plan.filter.eval params [r.scope]).truthOr false

/-- The row of a record after the SET list of a plan. -/
def Sql.UpdatePlan.rewrite (plan : UpdatePlan) (params : Array SqlValue) (r : ExportRecord) : Array SqlValue :=
  exportsTable.written r.values (plan.writes.map fun w => (w.1, w.2.eval params [r.scope]))

/-- Whether no CHECK constraint of a plan is false of a record. -/
def Sql.UpdatePlan.admits (plan : UpdatePlan) (params : Array SqlValue) (r : ExportRecord) : Bool :=
  plan.checks.all fun c => (c.eval params [r.scope]).truth? != some false

namespace Stores

variable {s : RecordStore} {recs : List ExportRecord}

/-- The UPDATE of a plan that fits it on the migrated schema, on the database
of a store of records. -/
def plainUpdate (hs : Stores s recs) {plan : UpdatePlan} {sets : List Assignment} {f : Expr}
    (fits : plan.Fits storeSchema exportsTable sets f) : PlainUpdate s.conn.db "report_exports" sets f :=
  UpdatePlan.plain fits (recs.map ExportRecord.row).toArray hs.migrated.schemaView (hs.migrated.noView _ _)
    hs.migrated.target_exports hs.migrated.table_exports (hs.migrated.noTriggers _) (hs.migrated.noUnique _)

section Plain

variable (hs : Stores s recs) {plan : UpdatePlan} {sets : List Assignment} {f : Expr}
  (fits : plan.Fits storeSchema exportsTable sets f) (params : Array SqlValue)

theorem plainUpdate_rows : (hs.plainUpdate fits).table.rows.toList = recs.map ExportRecord.row := by
  simp [plainUpdate, UpdatePlan.plain]

theorem plainUpdate_newValues (r : ExportRecord) :
    (hs.plainUpdate fits).newValues params r.row = plan.rewrite params r := rfl

/-- The CHECK constraints the UPDATE evaluates are the plan's. -/
theorem plainUpdate_checks : (hs.plainUpdate fits).checks.map (·.2.1) = plan.checks := by
  simp only [plainUpdate, UpdatePlan.plain]
  have seconds : ((exportsTable.checksOn plan.columns).zip (plan.checks.zip (plan.checkTypings storeSchema exportsTable))).map
      Prod.snd = plan.checks.zip (plan.checkTypings storeSchema exportsTable) := by
    rw [List.map_snd_zip]
    simp [fits.checksLength, fits.typingsLength]
  have firsts : (plan.checks.zip (plan.checkTypings storeSchema exportsTable)).map Prod.fst = plan.checks := by
    rw [List.map_fst_zip]
    simp [fits.typingsLength]
  conv_rhs => rw [← firsts, ← seconds, List.map_map]
  rfl

end Plain

/-- A migrated database stays migrated under a change of what `Migrated`
does not read: its counters. -/
theorem migrated_of_schema {db db' : Database} {exports sequence : Array StoredRow}
    (m : Migrated db exports sequence) (tables : db'.tables = db.tables) (indexes : db'.indexes = db.indexes)
    (views : db'.views = db.views) (triggers : db'.triggers = db.triggers)
    (foreignKeysOn : db'.foreignKeysOn = db.foreignKeysOn) : Migrated db' exports sequence := by
  obtain ⟨vs, ms, h⟩ := m.tables
  exact ⟨⟨vs, ms, tables.trans h⟩, indexes.trans m.indexes, views.trans m.views, triggers.trans m.triggers,
    foreignKeysOn.trans m.foreignKeysOn⟩

/-- A store still holds its records after a statement that changed no row. -/
theorem unchanged (hs : Stores s recs) (changes total : Nat) :
    Stores { s with conn := { s.conn with db := { s.conn.db with changes, totalChanges := total } } } recs :=
  ⟨hs.isOpen, migrated_of_schema hs.migrated rfl rfl rfl rfl rfl, hs.ascending, hs.linked⟩

/-- A record of a store is determined by its id. -/
theorem eq_of_id (hs : Stores s recs) {r q : ExportRecord} (hr : r ∈ recs) (hq : q ∈ recs) (same : r.id = q.id) :
    r = q :=
  List.inj_on_of_nodup_map (hs.ascending.imp Int.ne_of_lt) hr hq same

/-- Distinct ids: at most one record has a given id. -/
theorem selected_le_one (hs : Stores s recs) (sel : ExportRecord → Bool) (id : Int)
    (selectsId : ∀ r ∈ recs, sel r = true → r.id = id) : (recs.filter sel).length ≤ 1 := by
  have distinct : ((recs.filter sel).map (·.id)).Nodup :=
    (hs.ascending.imp Int.ne_of_lt).sublist (List.Sublist.map _ List.filter_sublist)
  have same : (recs.filter sel).map (·.id) = List.replicate (recs.filter sel).length id := by
    rw [List.eq_replicate_iff]
    refine ⟨by simp, ?_⟩
    intro x hx
    obtain ⟨r, hr, rfl⟩ := List.mem_map.1 hx
    exact selectsId r (List.mem_of_mem_filter hr) (List.mem_filter.1 hr).2
  rw [same, List.nodup_replicate] at distinct
  omega

/-- The AUTOINCREMENT mark is that of the last id. -/
theorem sequenceRows_of_ids {recs' : List ExportRecord} (ids : recs'.map (·.id) = recs.map (·.id)) :
    sequenceRows recs' = sequenceRows recs := by
  have last : recs'.getLast?.map (·.id) = recs.getLast?.map (·.id) := by
    rw [← List.getLast?_map, ← List.getLast?_map, ids]
  unfold sequenceRows
  cases h' : recs'.getLast? <;> cases h : recs.getLast? <;> simp_all

/-- Putting a row changes only the rows of a table. -/
theorem putRow_rows (t : Table) (rowid : Int) (vals : Array SqlValue) :
    t.putRow rowid vals = { t with rows := (t.putRow rowid vals).rows } := by
  unfold Table.putRow
  split
  · split <;> rfl
  · rfl

/-- A store holds the records with one replaced after a statement that
replaced its row, keeping its id and the record it retries. -/
theorem replaced (hs : Stores s recs) {r : ExportRecord} (hr : r ∈ recs) (next : ExportRecord) (sameId : next.id = r.id)
    (sameRetried : next.retriedFromId = r.retriedFromId) (changes total : Nat) :
    Stores { s with conn := { s.conn with db := { s.conn.db.setTable
        ({ exportsTable with rows := (recs.map ExportRecord.row).toArray }.putRow r.id next.values) with
          changes, totalChanges := total } } }
      (recs.map fun q => if q.id = r.id then next else q) := by
  have ids : (recs.map fun q => if q.id = r.id then next else q).map (·.id) = recs.map (·.id) := by
    rw [List.map_map]
    refine List.map_congr_left fun q _ => ?_
    by_cases same : q.id = r.id <;> simp [same, sameId]
  have rows : ({ exportsTable with rows := (recs.map ExportRecord.row).toArray }.putRow r.id next.values).rows =
      ((recs.map fun q => if q.id = r.id then next else q).map ExportRecord.row).toArray := by
    apply Array.ext'
    rw [Table.putRow_existing _ r.id r.values next.values ?ascending (by simpa using ⟨r, hr, rfl⟩)]
    case ascending => simpa [List.map_map, Function.comp_def, ExportRecord.row] using hs.ascending
    simp only [List.map_map]
    refine List.map_congr_left fun q _ => ?_
    by_cases same : q.id = r.id <;> simp [same, ExportRecord.row, sameId]
  refine ⟨hs.isOpen, ?_, by rw [ids]; exact hs.ascending, ?_⟩
  · rw [sequenceRows_of_ids ids, putRow_rows, rows]
    exact migrated_of_schema (hs.migrated.setExports _) rfl rfl rfl rfl rfl
  · intro q hq p hp
    obtain ⟨q₀, hq₀, rfl⟩ := List.mem_map.1 hq
    have retried : q₀.retriedFromId = some p := by
      by_cases same : q₀.id = r.id
      · obtain rfl := hs.eq_of_id hq₀ hr same
        simpa [sameRetried] using hp
      · simpa [same] using hp
    obtain ⟨t, ht, rfl⟩ := hs.linked q₀ hq₀ p retried
    refine ⟨if t.id = r.id then next else t, List.mem_map_of_mem ht, ?_⟩
    by_cases same : t.id = r.id <;> simp [same, sameId]

/-- The first false CHECK constraint of the UPDATE is missing exactly when
the plan admits the row. -/
theorem firstFalse_plainUpdate (hs : Stores s recs) {plan : UpdatePlan} {sets : List Assignment} {f : Expr}
    (fits : plan.Fits storeSchema exportsTable sets f) (params : Array SqlValue) (r : ExportRecord) :
    firstFalse params [r.scope] (hs.plainUpdate fits).checks = none ↔ plan.admits params r = true := by
  rw [firstFalse, List.find?_eq_none, UpdatePlan.admits, List.all_eq_true, ← plainUpdate_checks hs fits,
    List.forall_mem_map]
  simp only [beq_iff_eq, bne_iff_ne, ne_eq]

/-- What a guarded update does to a store of records, when its plan fits it
and selects only records of one id: with no record selected it reports
`false` and changes nothing; with a record selected whose new row the CHECK
constraints refuse, it fails and changes nothing; otherwise it reports
`true` and the record becomes its new version, which keeps its id and the
record it retries. -/
theorem guardedUpdate_spec (hs : Stores s recs) {plan : UpdatePlan} {text : String} {args : List SqlValue}
    (fit : plan.fitsText text args.length = true) (id : Int)
    (selectsId : ∀ r ∈ recs, plan.selects args.toArray r = true → r.id = id)
    (g : ExportRecord → ExportRecord)
    (rewrite : ∀ r ∈ recs, plan.selects args.toArray r = true → plan.rewrite args.toArray r = (g r).values)
    (keepsId : ∀ r, (g r).id = r.id) (keepsRetried : ∀ r, (g r).retriedFromId = r.retriedFromId) :
    ∃ s', (match recs.find? (plan.selects args.toArray) with
      | none => s.guardedUpdate text args = (s', .ok false) ∧ Stores s' recs
      | some r =>
        if plan.admits args.toArray (g r) = true then
          s.guardedUpdate text args = (s', .ok true) ∧ Stores s' (recs.map fun q => if q.id = id then g q else q)
        else (∃ e, s.guardedUpdate text args = (s', .error e)) ∧ Stores s' recs) ∧ s'.clock = s.clock := by
  obtain ⟨p, sets, f, parts, count, fits⟩ := UpdatePlan.fitsText_sound fit
  have rows := plainUpdate_rows hs fits
  -- what the engine's computation of the UPDATE asks of the rows
  have keys : ((hs.plainUpdate fits).table.rows.toList.map (·.1)).Nodup := by
    rw [rows, List.map_map]
    exact hs.ascending.imp Int.ne_of_lt
  have rowids : ∀ row ∈ (hs.plainUpdate fits).table.rows.toList, ∀ q, (hs.plainUpdate fits).table.rowidColumn = some q →
      ((hs.plainUpdate fits).newValues args.toArray row)[q]? = some (.integer row.1) := by
    rw [rows]
    intro row hrow q hq
    obtain ⟨r, -, rfl⟩ := List.mem_map.1 hrow
    obtain rfl : q = 0 := (Option.some.inj hq).symm
    rw [plainUpdate_newValues, UpdatePlan.rewrite, Table.written_getElem?_of_ne]
    · rfl
    · intro w hw
      obtain ⟨w', hw', rfl⟩ := List.mem_map.1 hw
      exact fun zero => (hs.plainUpdate fits).keepsRowid w' hw' (by rw [zero]; rfl)
  have atMostOne : ((hs.plainUpdate fits).table.rows.toList.filter ((hs.plainUpdate fits).selects args.toArray)).length ≤ 1 := by
    rw [rows, List.filter_map, List.length_map]
    exact hs.selected_le_one _ id selectsId
  have filled : ∀ row ∈ (hs.plainUpdate fits).table.rows.toList, (hs.plainUpdate fits).selects args.toArray row = true →
      ∀ i < (hs.plainUpdate fits).table.columns.size, ((hs.plainUpdate fits).table.columns[i]!).notNull.isSome = true →
        i ∈ (hs.plainUpdate fits).writes.map (·.1) → (hs.plainUpdate fits).table.rowidColumn ≠ some i →
          (((hs.plainUpdate fits).newValues args.toArray row)[i]!).isNull = false := by
    rw [rows]
    intro row hrow selected i within required _ _
    obtain ⟨r, hr, rfl⟩ := List.mem_map.1 hrow
    rw [plainUpdate_newValues, rewrite r hr selected]
    exact (g r).values_filled i within required
  have found : (hs.plainUpdate fits).table.rows.toList.find? ((hs.plainUpdate fits).selects args.toArray) =
      (recs.find? (plan.selects args.toArray)).map ExportRecord.row := by
    rw [rows, List.find?_map]
    rfl
  rw [RecordStore.guardedUpdate_single hs.isOpen parts args count.symm, PlainUpdate.execute_eq s.conn (hs.plainUpdate fits),
    PlainUpdate.update_eq _ _ keys rowids atMostOne filled, found]
  cases hfind : recs.find? (plan.selects args.toArray) with
  | none => exact ⟨_, ⟨rfl, hs.unchanged _ _⟩, rfl⟩
  | some r =>
    have hr : r ∈ recs := List.mem_of_find?_eq_some hfind
    have selected : plan.selects args.toArray r = true := List.find?_some hfind
    have rid : r.id = id := selectsId r hr selected
    have newValues : (hs.plainUpdate fits).newValues args.toArray r.row = (g r).values :=
      (plainUpdate_newValues hs fits _ r).trans (rewrite r hr selected)
    have scope : (hs.plainUpdate fits).table.scopeOf r.row.1 (g r).values = (g r).scope := by
      show exportsTable.scopeOf r.id (g r).values = exportsTable.scopeOf (g r).id (g r).values
      rw [keepsId]
    -- the record of the id is the one selected
    have changed : (recs.map fun q => if q.id = id then g q else q) = recs.map fun q => if q.id = r.id then g r else q := by
      refine List.map_congr_left fun q hq => ?_
      by_cases same : q.id = r.id
      · obtain rfl := hs.eq_of_id hq hr same
        simp [rid]
      · simp [same, ← rid]
    simp only [Option.map_some, newValues, scope]
    by_cases admitted : plan.admits args.toArray (g r) = true
    · have passes := (firstFalse_plainUpdate hs fits args.toArray (g r)).2 admitted
      have stores := hs.replaced hr (g r) (keepsId r) (keepsRetried r) 1 (s.conn.db.totalChanges + 1)
      have keysHold : ∀ written parents,
          (s.conn.db.setTable ((hs.plainUpdate fits).table.putRow r.row.1 (g r).values)).checkForeignKeys written
            parents = .ok () :=
        fun _ _ => checkForeignKeys_linked (migrated_of_schema stores.migrated rfl rfl rfl rfl rfl) stores.linked _ _
      simp only [admitted, if_true, passes, keysHold, Connection.change]
      refine ⟨_, ⟨rfl, ?_⟩, rfl⟩
      rw [changed]
      exact stores
    · obtain ⟨c, refused⟩ : ∃ c, firstFalse args.toArray [(g r).scope] (hs.plainUpdate fits).checks = some c :=
        Option.ne_none_iff_exists'.1 (mt (firstFalse_plainUpdate hs fits args.toArray (g r)).1 admitted)
      simp only [admitted, refused, Connection.change]
      exact ⟨_, ⟨⟨_, rfl⟩, hs.unchanged 0 s.conn.db.totalChanges⟩, rfl⟩

end Stores

end ReportExport

namespace ReportExport

open Sql Store

/-! ## Changes of status -/

/-- A record after a change of status at a time. -/
def ExportRecord.changed (r : ExportRecord) (now : Int) : StatusChange → ExportRecord
  | .dispatch jobId => { r with status := .dispatched, jobId := some jobId, updatedAt := now }
  | .start => { r with status := .processing, startedAt := some now, updatedAt := now }
  | .complete => { r with status := .completed, completedAt := some now, updatedAt := now }
  | .fail message => { r with status := .failed, failedAt := some now, errorMessage := some message, updatedAt := now }

@[simp] theorem ExportRecord.id_changed (r : ExportRecord) (now : Int) (c : StatusChange) :
    (r.changed now c).id = r.id := by
  cases c <;> rfl

@[simp] theorem ExportRecord.retriedFromId_changed (r : ExportRecord) (now : Int) (c : StatusChange) :
    (r.changed now c).retriedFromId = r.retriedFromId := by
  cases c <;> rfl

@[simp] theorem ExportRecord.status_changed (r : ExportRecord) (now : Int) (c : StatusChange) :
    (r.changed now c).status = c.target := by
  cases c <;> rfl

/-- The request of a change of status. -/
def Store.RecordStore.changeStatus (s : RecordStore) (id : Int) : StatusChange → Outcome Bool
  | .dispatch jobId => s.markDispatched id jobId
  | .start => s.markProcessing id
  | .complete => s.markCompleted id
  | .fail message => s.markFailed id message

namespace StatusChange

/-- The arguments of a change's statement: its stamps, the time, and the id. -/
def args (c : StatusChange) (now id : Int) : List SqlValue :=
  match c with
  | .dispatch jobId => [.ofString jobId, .integer now, .integer id]
  | .start | .complete => [.integer now, .integer now, .integer id]
  | .fail message => [.integer now, .ofString message, .integer now, .integer id]

/-- Each change is a guarded update whose text its plan fits, checked on the
migrated schema by the kernel. -/
theorem statement : ∀ c : StatusChange, ∃ text,
    (∀ (s : RecordStore) (id : Int), s.changeStatus id c = s.guardedUpdate text (c.args s.clock id)) ∧
      ∀ now id, c.plan.fitsText text (c.args now id).length = true
  | .dispatch jobId => ⟨_, fun s id => show s.markDispatched id jobId = _ from rfl, fun _ _ => by
      show (StatusChange.dispatch "").plan.fitsText _ 3 = true
      decide +kernel⟩
  | .start => ⟨_, fun s id => show s.markProcessing id = _ from rfl, fun _ _ => by
      show StatusChange.start.plan.fitsText _ 3 = true
      decide +kernel⟩
  | .complete => ⟨_, fun s id => show s.markCompleted id = _ from rfl, fun _ _ => by
      show StatusChange.complete.plan.fitsText _ 3 = true
      decide +kernel⟩
  | .fail message => ⟨_, fun s id => show s.markFailed id message = _ from rfl, fun _ _ => by
      show (StatusChange.fail "").plan.fitsText _ 4 = true
      decide +kernel⟩

/-- The id the statement of a change is given last. -/
theorem args_id (c : StatusChange) (now id : Int) :
    (c.args now id).toArray[c.stamps.length + 2 - 1]?.getD .null = .integer id := by
  cases c <;> rfl

/-- A change selects the record of its id when that record's status may move
to the change's target. -/
theorem selects_eq (c : StatusChange) (now id : Int) (r : ExportRecord) :
    c.plan.selects (c.args now id).toArray r = (r.id == id && r.status.canTransitionTo c.target) := by
  have byId : ((PureTerm.compare .eq (.column 0 1) (.param (c.stamps.length + 2)) .integer .binary).eval
      (c.args now id).toArray [r.scope]).truth? = some (r.id == id) := by
    rw [PureTerm.eval, ExportRecord.eval_id, PureTerm.eval, args_id, compareValues_eq_integer, SqlValue.truth?_ofTruth]
  rw [UpdatePlan.selects, plan, PureTerm.eval_and_truthOr byId (r.truth_guard _ c.target)]

/-- A change writes the record's changed row. -/
theorem rewrite_eq (c : StatusChange) (now id : Int) (r : ExportRecord) :
    c.plan.rewrite (c.args now id).toArray r = (r.changed now c).values := by
  cases c <;> rfl

/-- The status a change writes is always one the table accepts. -/
theorem admits_changed (c : StatusChange) (now id : Int) (r : ExportRecord) :
    c.plan.admits (c.args now id).toArray (r.changed now c) = true := by
  simp [UpdatePlan.admits, plan, ExportRecord.truth_statusCheck]

end StatusChange

/-- Whether a change of status applies to a record: the record of the id, in
a status the change's target may follow. -/
def StatusChange.appliesTo (c : StatusChange) (id : Int) (r : ExportRecord) : Bool :=
  r.id == id && r.status.canTransitionTo c.target

/-- What a change of status does to a store of records: the record of the
id, when its status may move to the change's target, is changed at the
store's time, and the request reports whether there was one; every other
record stays, and when there was none the store holds the records it held. -/
theorem Stores.changeStatus_spec {s : RecordStore} {recs : List ExportRecord} (hs : Stores s recs) (id : Int)
    (c : StatusChange) :
    ∃ s', s.changeStatus id c = (s', .ok (recs.any (c.appliesTo id))) ∧
      Stores s' (recs.map fun r => if c.appliesTo id r then r.changed s.clock c else r) ∧ s'.clock = s.clock := by
  obtain ⟨text, request, fits⟩ := c.statement
  have selects : c.plan.selects (c.args s.clock id).toArray = c.appliesTo id := by
    funext r
    exact c.selects_eq s.clock id r
  obtain ⟨s', outcome, clock⟩ := hs.guardedUpdate_spec (fits s.clock id) id
    (fun r _ selected => by
      rw [selects, StatusChange.appliesTo, Bool.and_eq_true, beq_iff_eq] at selected
      exact selected.1)
    (fun r => r.changed s.clock c) (fun r _ _ => c.rewrite_eq s.clock id r)
    (fun r => r.id_changed s.clock c) (fun r => r.retriedFromId_changed s.clock c)
  rw [request]
  rw [selects] at outcome
  cases hfind : recs.find? (c.appliesTo id) with
  | none =>
    -- no record applies: the request reports false and nothing changes
    rw [hfind] at outcome
    have none : ∀ r ∈ recs, c.appliesTo id r = false := by simpa using List.find?_eq_none.1 hfind
    have any : recs.any (c.appliesTo id) = false := by simpa using none
    have same : (recs.map fun r => if c.appliesTo id r then r.changed s.clock c else r) = recs := by
      rw [List.map_congr_left (g := fun r => r) fun r hr => by simp [none r hr], List.map_id']
    exact ⟨s', by rw [any]; exact outcome.1, by rw [same]; exact outcome.2, clock⟩
  | some r =>
    -- the record of the id applies: it is changed and the request reports true
    rw [hfind] at outcome
    have hr : r ∈ recs := List.mem_of_find?_eq_some hfind
    have applies : c.appliesTo id r = true := List.find?_some hfind
    simp only [c.admits_changed, if_true] at outcome
    have any : recs.any (c.appliesTo id) = true := List.any_eq_true.2 ⟨r, hr, applies⟩
    have same : (recs.map fun q => if q.id = id then q.changed s.clock c else q) =
        recs.map fun q => if c.appliesTo id q then q.changed s.clock c else q := by
      refine List.map_congr_left fun q hq => ?_
      by_cases own : q.id = id
      · have ownId : r.id = id := by
          rw [StatusChange.appliesTo, Bool.and_eq_true, beq_iff_eq] at applies
          exact applies.1
        obtain rfl := hs.eq_of_id hq hr (own.trans ownId.symm)
        simp [applies, own]
      · simp [own, StatusChange.appliesTo]
    exact ⟨s', by rw [any]; exact outcome.1, by rw [← same]; exact outcome.2, clock⟩

/-! ## Progress -/

/-- A record after progress is stored at a time: the count, and the total
when one is given. -/
def ExportRecord.progressed (r : ExportRecord) (now rows : Int) (total : Option Int) : ExportRecord :=
  { r with rowsProcessed := rows, totalRows := total.or r.totalRows, updatedAt := now }

/-- The arguments of the statement that stores progress. -/
def progressArgs (now id rows : Int) (total : Option Int) : List SqlValue :=
  [.integer rows, optInteger total, .integer now, .integer id]

/-- Storing progress is a guarded update whose text its plan fits, checked
on the migrated schema by the kernel. -/
theorem progress_statement : ∃ text,
    (∀ (s : RecordStore) (id rows : Int) (total : Option Int),
      s.updateProgress id rows total = s.guardedUpdate text (progressArgs s.clock id rows total)) ∧
      ∀ now id rows total, progressPlan.fitsText text (progressArgs now id rows total).length = true :=
  ⟨_, fun _ _ _ _ => rfl, fun _ _ _ _ => by
    show progressPlan.fitsText _ 4 = true
    decide +kernel⟩

/-- Storing progress selects the record of the id. -/
theorem progress_selects (now id rows : Int) (total : Option Int) (r : ExportRecord) :
    progressPlan.selects (progressArgs now id rows total).toArray r = (r.id == id) := by
  have param : (progressArgs now id rows total).toArray[4 - 1]?.getD .null = .integer id := rfl
  rw [UpdatePlan.selects, progressPlan, PureTerm.eval, ExportRecord.eval_id, PureTerm.eval, param,
    compareValues_eq_integer, SqlValue.truthOr_ofTruth]

@[simp] theorem SqlValue.stored_optInteger (x : Option Int) : (optInteger x).stored .integer = optInteger x := by
  cases x <;> rfl

/-- Storing progress writes the record's row with the progress. -/
theorem progress_rewrite (now id rows : Int) (total : Option Int) (r : ExportRecord) :
    progressPlan.rewrite (progressArgs now id rows total).toArray r = (r.progressed now rows total).values := by
  -- COALESCE(?, total_rows): the total given, else the one stored
  have kept : (PureTerm.column 0 8).eval (progressArgs now id rows total).toArray [r.scope] = optInteger r.totalRows := by
    rw [ExportRecord.eval_column]
    rfl
  have coalesced : (PureTerm.coalesce (.cons (.param 2) (.cons (.column 0 8) .nil)) .binary).eval
      (progressArgs now id rows total).toArray [r.scope] = optInteger (total.or r.totalRows) := by
    rw [PureTerm.eval, PureTerms.eval, PureTerms.eval, PureTerms.eval, kept]
    show firstNonNull [optInteger total, optInteger r.totalRows] = optInteger (total.or r.totalRows)
    cases total <;> cases r.totalRows <;> rfl
  have integers : exportsTable.columns[6]!.affinity = .integer ∧ exportsTable.columns[7]!.affinity = .integer ∧
      exportsTable.columns[19]!.affinity = .integer := ⟨rfl, rfl, rfl⟩
  simp only [UpdatePlan.rewrite, progressPlan, List.map_cons, List.map_nil, coalesced, Table.written, List.foldl_cons,
    List.foldl_nil, integers, SqlValue.stored_optInteger]
  rfl

section Checks

variable (r : ExportRecord) (params : Array SqlValue)

theorem ExportRecord.eval_rowsProcessed : (PureTerm.column 0 7).eval params [r.scope] = .integer r.rowsProcessed := by
  rw [ExportRecord.eval_column]
  rfl

theorem ExportRecord.eval_totalRows : (PureTerm.column 0 8).eval params [r.scope] = optInteger r.totalRows := by
  rw [ExportRecord.eval_column]
  rfl

/-- The count of a record passes its CHECK constraint when it is not negative. -/
theorem ExportRecord.truth_rowsCheck :
    (rowsCheckTerm.eval params [r.scope]).truth? = some (decide (0 ≤ r.rowsProcessed)) := by
  rw [rowsCheckTerm, PureTerm.eval, r.eval_rowsProcessed, PureTerm.eval, PureValue.toValue, compareValues_ge_integer,
    SqlValue.truth?_ofTruth]

/-- The total of a record passes its CHECK constraint when there is none or
it is not negative. -/
theorem ExportRecord.truth_totalCheck :
    (totalCheckTerm.eval params [r.scope]).truth? = some (r.totalRows.all (0 ≤ ·)) := by
  rw [totalCheckTerm, PureTerm.eval, PureTerm.eval, r.eval_totalRows, PureTerm.eval, PureTerm.eval, r.eval_totalRows,
    PureTerm.eval]
  cases r.totalRows with
  | none => rfl
  | some v =>
    have bound := compareValues_ge_integer .binary v 0
    simp only [optInteger, PureValue.toValue] at bound ⊢
    rw [bound]
    cases h : decide (0 ≤ v) <;> simp_all [compareValues, ofTruth, SqlValue.truth?, SqlValue.truthOr, orValues]

end Checks

/-- The table accepts a record's row exactly when its count and its total are
not negative. -/
theorem progress_admits (params : Array SqlValue) (r : ExportRecord) :
    progressPlan.admits params r = (decide (0 ≤ r.rowsProcessed) && r.totalRows.all (0 ≤ ·)) := by
  simp only [UpdatePlan.admits, progressPlan, List.all_cons, List.all_nil, Bool.and_true, r.truth_rowsCheck,
    r.truth_totalCheck]
  cases decide (0 ≤ r.rowsProcessed) <;> cases r.totalRows.all (0 ≤ ·) <;> rfl

/-- What storing progress does to a store of records: on the record of the
id, when the count and the total it would keep are not negative, it writes
them and the store's time and reports `true`; when one is negative the
table's CHECK constraints refuse it and the request fails; when there is no
record of the id it reports `false`. A refused or unmatched request changes
nothing. -/
theorem Stores.updateProgress_spec {s : RecordStore} {recs : List ExportRecord} (hs : Stores s recs)
    (id rows : Int) (total : Option Int) :
    ∃ s', (match recs.find? (·.id == id) with
      | none => s.updateProgress id rows total = (s', .ok false) ∧ Stores s' recs
      | some r =>
        if 0 ≤ rows ∧ (total.or r.totalRows).all (0 ≤ ·) = true then
          s.updateProgress id rows total = (s', .ok true) ∧
            Stores s' (recs.map fun q => if q.id = id then q.progressed s.clock rows total else q)
        else (∃ e, s.updateProgress id rows total = (s', .error e)) ∧ Stores s' recs) ∧ s'.clock = s.clock := by
  obtain ⟨text, request, fits⟩ := progress_statement
  have selects : progressPlan.selects (progressArgs s.clock id rows total).toArray = (·.id == id) := by
    funext r
    exact progress_selects s.clock id rows total r
  obtain ⟨s', outcome, clock⟩ := hs.guardedUpdate_spec (fits s.clock id rows total) id
    (fun r _ selected => by rw [selects] at selected; simpa using selected)
    (fun r => r.progressed s.clock rows total) (fun r _ _ => progress_rewrite s.clock id rows total r)
    (fun _ => rfl) (fun _ => rfl)
  rw [selects] at outcome
  simp only [progress_admits, ExportRecord.progressed, Bool.and_eq_true, decide_eq_true_eq] at outcome
  refine ⟨s', ?_, clock⟩
  simp only [request]
  exact outcome

end ReportExport
