import ReportExport.Proofs.Store.Requests

/-!
# Creating a record

A record is created by one INSERT of a Pending row into `report_exports`,
RETURNING its columns. On a store of records (`Stores`) the new record takes
the id one past the last, which the AUTOINCREMENT mark also holds, so ids
only grow. The statement fails, and the table stays as it was, when the ids
have run out or when the record it names as retried is not stored; a record
may name itself, since the foreign key is checked with the new row in place.

`Stores.createExport_spec` states this, from `PlainInsert.insert_eq` and the
plan of the statement checked by the kernel on the migrated schema.
-/

namespace ReportExport.Sql

open Store

/-- Whether a text is one INSERT into the export records, with `n` positional
parameters, that the plan fits on the migrated schema. -/
def InsertPlan.fitsText (plan : InsertPlan) (text : String) (n : Nat) : Bool :=
  match insertParts text with
  | some (p, name, columns, q, returning) =>
    name == "report_exports" && p.parameters == n && plan.fits storeSchema exportsTable columns q returning
  | none => false

theorem InsertPlan.fitsText_sound {plan : InsertPlan} {text : String} {n : Nat} (h : plan.fitsText text n = true) :
    ∃ p columns q returning, insertParts text = some (p, "report_exports", columns, q, returning) ∧
      p.parameters = n ∧ plan.Fits storeSchema exportsTable columns q returning := by
  unfold fitsText at h
  split at h
  · rename_i p name columns q returning parts
    simp only [Bool.and_eq_true, beq_iff_eq] at h
    obtain ⟨⟨rfl, count⟩, fits⟩ := h
    exact ⟨p, columns, q, returning, parts, count, plan.fits_sound fits⟩
  · cases h

end ReportExport.Sql

namespace ReportExport.Store.RecordStore

open Sql

/-- Fetching one row of a text that is one INSERT runs that statement on the
connection and reads the first row it returns. -/
theorem fetchOne_single {s : RecordStore} {text : String} {p : Parser.Parsed} {name : String} {columns : List String}
    {q : Query} {returning : List ResultColumn} (isOpen : s.closed = false)
    (parts : insertParts text = some (p, name, columns, q, returning)) (args : List SqlValue)
    (count : args.length = p.parameters) :
    s.fetchOne text args =
      match s.conn.execute args.toArray (.insert none none name none (some columns) (.query q) [] returning) with
      | (c, .error e) => ({ s with conn := c }, .error (.database e))
      | (c, .ok rows) => ({ s with conn := c },
        match rows.rows.toList.head? with
        | some row => .ok { columns := rows.columns, values := row.toList }
        | none => .error .rowNotFound) := by
  obtain ⟨single, statement⟩ := insertParts_spec parts
  simp only [fetchOne, fetchOptional, fetchAll, run, isOpen, Bool.false_eq_true, if_false,
    Connection.run_single single s.conn args count, statement]
  rcases s.conn.execute args.toArray (.insert none none name none (some columns) (.query q) [] returning) with
    ⟨c, e | rows⟩
  · rfl
  · dsimp only
    cases rows.rows.toList <;> rfl

end ReportExport.Store.RecordStore

namespace ReportExport

open Sql Store

/-- The terms of creating a record: the named columns, the VALUES row of
parameters with the Pending status and the count zero, the twenty columns
returned, and the table's three CHECK constraints. -/
def createPlan : InsertPlan where
  targets := [1, 2, 3, 4, 5, 6, 12, 13, 14, 15, 16, 18, 19]
  values := PureTerms.ofList [.param 1, .param 2, .param 3, .param 4, statusTerm .pending, .value (.integer 0),
    .param 5, .param 6, .param 7, .param 8, .param 9, .param 10, .param 11]
  returns := PureTerms.ofList ((List.range 20).map fun i => .column 0 (i + 1))
  checks := [statusCheckTerm, rowsCheckTerm, totalCheckTerm]

/-- The arguments of the statement that creates a record. -/
def createArgs (n : NewExport) (now : Int) : List SqlValue :=
  [.ofString n.descriptor.kind, .ofString n.descriptor.toJson.compact, .ofString n.querySql,
    .ofString (Json.arr n.queryBindings).compact, optInteger n.retriedFromId, .ofString n.descriptor.disk,
    .ofString n.descriptor.outputPath, .ofString n.queue, optText n.connection, .integer now, .integer now]

/-- Creating a record runs an INSERT whose text its plan fits, returning the
record's columns under their names, checked on the migrated schema by the
kernel. -/
theorem create_statement : ∃ text,
    (∀ (s : RecordStore) (n : NewExport), s.createExport n =
      match s.fetchOne text (createArgs n s.clock) with
      | (s, .error e) => (s, .error (.driver e))
      | (s, .ok row) => (s, readRecord row)) ∧
      (∀ n now, createPlan.fitsText text (createArgs n now).length = true) ∧
      (insertParts text).map (fun parts => InsertPlan.namesOf storeSchema exportsTable parts.2.2.2.2) =
        some ExportRecord.columnNames :=
  ⟨_, fun _ _ => rfl, fun _ _ => by
    show createPlan.fitsText _ 11 = true
    decide +kernel, by decide +kernel⟩

/-- The id of the last record, or zero when there is none: the largest rowid
of the table and its AUTOINCREMENT mark. -/
def lastId (recs : List ExportRecord) : Int := (recs.getLast?.map (·.id)).getD 0

/-- The record a request to create makes under an id at a time: Pending,
with nothing counted, started or finished, and created and updated then. -/
def Store.NewExport.record (n : NewExport) (id now : Int) : ExportRecord where
  id := id
  reportKind := n.descriptor.kind
  descriptorText := n.descriptor.toJson.compact
  querySql := n.querySql
  queryBindings := n.queryBindings
  status := .pending
  retriedFromId := n.retriedFromId
  disk := n.descriptor.disk
  path := n.descriptor.outputPath
  queue := n.queue
  connection := n.connection
  createdAt := now
  updatedAt := now

theorem id_le_lastId {recs : List ExportRecord} (ascending : (recs.map (·.id)).Pairwise (· < ·)) :
    ∀ r ∈ recs, r.id ≤ lastId recs := by
  rcases List.eq_nil_or_concat' recs with rfl | ⟨init, last, rfl⟩
  · simp
  · intro r hr
    simp only [List.map_append, List.map_cons, List.map_nil, List.pairwise_append, List.mem_map,
      List.mem_singleton] at ascending
    simp only [lastId, List.getLast?_append, List.getLast?_singleton, Option.some_or, Option.map_some,
      Option.getD_some]
    rcases List.mem_append.1 hr with hr | hr
    · exact Int.le_of_lt (ascending.2.2 _ ⟨r, hr, rfl⟩ _ rfl)
    · obtain rfl := List.mem_singleton.1 hr
      exact Int.le_refl _

/-- The name the AUTOINCREMENT mark of the export records is stored under. -/
theorem sameName_mark : sameName (lenientString (Text.bytesOf "report_exports")) "report_exports" = true := by
  decide +kernel

/-- Raising the AUTOINCREMENT mark to the id of a record past the last one
gives the mark of the records with it. -/
theorem Store.Migrated.markSequence_next {db : Database} {exports : Array StoredRow} {recs : List ExportRecord}
    (m : Migrated db exports (sequenceRows recs)) (r : ExportRecord) (past : lastId recs < r.id) :
    Migrated (db.markSequence "report_exports" r.id) exports (sequenceRows (recs ++ [r])) := by
  have marked : sequenceRows (recs ++ [r]) = #[(1, #[.ofString "report_exports", .integer r.id])] := by
    simp [sequenceRows]
  rw [marked, Database.markSequence, m.table_sequence]
  cases last : recs.getLast? with
  | none =>
    -- no mark yet: the first is put under rowid one
    simp only [sequenceRows, last]
    exact m.setSequence _
  | some l =>
    -- the mark of the last id is raised
    have below : l.id < r.id := by simpa [lastId, last] using past
    simp [sequenceRows, last, SqlValue.ofString, sameName_mark, SqlValue.intValue, below]
    exact m.setSequence _

/-- After an INSERT only the new row is checked against the foreign key: it
passes when the record it retries is stored, itself included. -/
theorem checkForeignKeys_created {db : Database} {recs : List ExportRecord} {seq : Array StoredRow} {r : ExportRecord}
    (m : Migrated db ((recs ++ [r]).map ExportRecord.row).toArray seq) (past : ∀ q ∈ recs, q.id < r.id) :
    db.checkForeignKeys [("report_exports", r.id)] [] =
      if r.parentIn (recs ++ [r]) = true then .ok () else .error (.constraint 787 "FOREIGN KEY constraint failed") := by
  rw [checkForeignKeys_eq m, List.find?_append, List.find?_eq_none.2 ?older]
  case older =>
    intro q hq
    simp [fkChecked, Int.ne_of_gt (past q hq)]
  by_cases parent : r.parentIn (recs ++ [r]) = true <;> simp [fkChecked, sameName_exports_self, parent]

namespace Stores

variable {s : RecordStore} {recs : List ExportRecord}

/-! The schema facts an INSERT needs, on the database of a store of records. -/

theorem schemaView_db (hs : Stores s recs) : Resolve.schemaView s.conn.db = Resolve.schemaView storeSchema :=
  hs.migrated.schemaView

theorem noInsertView (hs : Stores s recs) : s.conn.db.triggeredView "report_exports" .insert = none :=
  hs.migrated.noView _ _

theorem target_db (hs : Stores s recs) :
    s.conn.db.targetIn {} "report_exports" = .ok { exportsTable with rows := (recs.map ExportRecord.row).toArray } :=
  hs.migrated.target_exports

theorem table_db (hs : Stores s recs) :
    s.conn.db.table? exportsTable.name = some { exportsTable with rows := (recs.map ExportRecord.row).toArray } :=
  hs.migrated.table_exports

theorem noTriggers_db (hs : Stores s recs) : s.conn.db.hasTriggers exportsTable.name = false :=
  hs.migrated.noTriggers _

theorem noUnique_db (hs : Stores s recs) : (s.conn.db.indexesOf exportsTable.name).filter (·.unique) = [] :=
  hs.migrated.noUnique _

/-- The INSERT of a plan that fits it on the migrated schema, on the database
of a store of records. -/
def plainInsert (hs : Stores s recs) {plan : InsertPlan} {columns : List String} {q : Query}
    {returning : List ResultColumn} (fits : plan.Fits storeSchema exportsTable columns q returning) :
    PlainInsert s.conn.db "report_exports" columns q returning :=
  -- each schema fact is a lemma applied to the store alone, so that no proof is
  -- abstracted out of the definition's body
  InsertPlan.plain fits (recs.map ExportRecord.row).toArray hs.schemaView_db hs.noInsertView hs.target_db
    hs.table_db hs.noTriggers_db hs.noUnique_db

section Plain

variable (hs : Stores s recs) {plan : InsertPlan} {columns : List String} {q : Query} {returning : List ResultColumn}
  (fits : plan.Fits storeSchema exportsTable columns q returning)

theorem plainInsert_table : (hs.plainInsert fits).table = { exportsTable with rows := (recs.map ExportRecord.row).toArray } :=
  rfl

theorem plainInsert_name : (hs.plainInsert fits).table.name = "report_exports" := rfl

theorem plainInsert_maxRowid : (hs.plainInsert fits).table.maxRowid = lastId recs := by
  rw [plainInsert_table, Table.maxRowid, List.back?_toArray, List.getLast?_map, lastId]
  cases recs.getLast? <;> rfl

/-- The rowid the INSERT takes is one past the last id: the table's largest
rowid and its AUTOINCREMENT mark are both the last id. -/
theorem plainInsert_lastRowid : (hs.plainInsert fits).table.lastRowid s.conn.db = lastId recs := by
  have mark : s.conn.db.sequenceOf "report_exports" = lastId recs := by
    rw [Database.sequenceOf, hs.migrated.table_sequence, sequenceRows, lastId]
    cases recs.getLast? with
    | none => rfl
    | some r =>
      simp [SqlValue.ofString, sameName_mark, SqlValue.intValue]
  rw [Table.lastRowid, plainInsert_maxRowid, plainInsert_name, mark, Int.max_self]

/-- The CHECK constraints the INSERT evaluates are the plan's. -/
theorem plainInsert_checks : (hs.plainInsert fits).checks.map (·.2.1) = plan.checks := by
  have seconds : (exportsTable.checks.zip (plan.checks.zip (InsertPlan.checkTypings storeSchema exportsTable))).map
      Prod.snd = plan.checks.zip (InsertPlan.checkTypings storeSchema exportsTable) := by
    rw [List.map_snd_zip]
    simp [fits.checksLength, fits.typingsLength]
  have firsts : (plan.checks.zip (InsertPlan.checkTypings storeSchema exportsTable)).map Prod.fst = plan.checks := by
    rw [List.map_fst_zip]
    simp [fits.typingsLength]
  conv_rhs => rw [← firsts, ← seconds, List.map_map]
  rfl

end Plain

/-- The row the INSERT stores under an id is that of the new record. -/
theorem createPlan_rowValues (hs : Stores s recs) {columns : List String} {q : Query} {returning : List ResultColumn}
    (fits : createPlan.Fits storeSchema exportsTable columns q returning) (n : NewExport) (id now : Int) :
    (hs.plainInsert fits).rowValues (createArgs n now).toArray id = (n.record id now).values := by
  -- the optional values are stored as they are given
  cases hr : n.retriedFromId <;> cases hc : n.connection <;>
    simp only [createArgs, Store.NewExport.record, hr, hc] <;> rfl

/-- The new record passes every CHECK constraint of the table: its status is
one of the five, and nothing is counted. -/
theorem firstFalse_created (hs : Stores s recs) {columns : List String} {q : Query} {returning : List ResultColumn}
    (fits : createPlan.Fits storeSchema exportsTable columns q returning) (params : Array SqlValue)
    (n : NewExport) (id now : Int) :
    firstFalse params [(n.record id now).scope] (hs.plainInsert fits).checks = none := by
  rw [firstFalse, List.find?_eq_none]
  intro c hc
  have listed : c.2.1 ∈ createPlan.checks := plainInsert_checks hs fits ▸ List.mem_map_of_mem hc
  simp only [createPlan, List.mem_cons, List.not_mem_nil, or_false] at listed
  rcases listed with term | term | term <;> rw [term]
  · simp [ExportRecord.truth_statusCheck]
  · simp [ExportRecord.truth_rowsCheck, Store.NewExport.record]
  · simp [ExportRecord.truth_totalCheck, Store.NewExport.record]

/-- The database after the INSERT put the row of a record past the last and
raised the AUTOINCREMENT mark to it holds the records with it. -/
theorem migrated_appended (hs : Stores s recs) {plan : InsertPlan} {columns : List String} {q : Query}
    {returning : List ResultColumn} (fits : plan.Fits storeSchema exportsTable columns q returning) (r : ExportRecord)
    (past : lastId recs < r.id) :
    Migrated (({ (s.conn.db.setTable ((hs.plainInsert fits).table.putRow r.id r.values)) with lastRowid := r.id }
        ).markSequence "report_exports" r.id)
      ((recs ++ [r]).map ExportRecord.row).toArray (sequenceRows (recs ++ [r])) := by
  have below : ∀ row ∈ (hs.plainInsert fits).table.rows.toList, row.1 < r.id := by
    intro row hrow
    rw [plainInsert_table, List.toList_toArray] at hrow
    obtain ⟨q, hq, rfl⟩ := List.mem_map.1 hrow
    exact Int.lt_of_le_of_lt (id_le_lastId hs.ascending q hq) past
  have rows : (hs.plainInsert fits).table.putRow r.id r.values =
      { exportsTable with rows := ((recs ++ [r]).map ExportRecord.row).toArray } := by
    rw [putRow_rows, Table.putRow_past _ _ _ below, plainInsert_table]
    simp [ExportRecord.row]
  rw [rows]
  have put : Migrated { (s.conn.db.setTable { exportsTable with rows := ((recs ++ [r]).map ExportRecord.row).toArray })
      with lastRowid := r.id } ((recs ++ [r]).map ExportRecord.row).toArray (sequenceRows recs) :=
    migrated_of_schema (hs.migrated.setExports _) rfl rfl rfl rfl rfl
  exact put.markSequence_next r past

/-- A store holds the records with a new one past the last after the INSERT
put its row, when the record it retries is stored. -/
theorem appended (hs : Stores s recs) {plan : InsertPlan} {columns : List String} {q : Query}
    {returning : List ResultColumn} (fits : plan.Fits storeSchema exportsTable columns q returning) (r : ExportRecord)
    (past : lastId recs < r.id) (parent : r.parentIn (recs ++ [r]) = true) (changes total : Nat) :
    Stores { s with conn := { s.conn with db := { (({ (s.conn.db.setTable ((hs.plainInsert fits).table.putRow r.id
        r.values)) with lastRowid := r.id }).markSequence "report_exports" r.id) with changes, totalChanges := total } } }
      (recs ++ [r]) := by
  have below : ∀ q ∈ recs, q.id < r.id := fun q hq => Int.lt_of_le_of_lt (id_le_lastId hs.ascending q hq) past
  refine ⟨hs.isOpen, migrated_of_schema (hs.migrated_appended fits r past) rfl rfl rfl rfl rfl, ?_, ?_⟩
  · rw [List.map_append, List.pairwise_append]
    refine ⟨hs.ascending, List.pairwise_singleton _ _, ?_⟩
    intro a ha b hb
    obtain ⟨q, hq, rfl⟩ := List.mem_map.1 ha
    obtain rfl : b = r.id := by simpa using hb
    exact below q hq
  · intro q hq p hp
    rcases List.mem_append.1 hq with older | new
    · obtain ⟨t, ht, same⟩ := hs.linked q older p hp
      exact ⟨t, List.mem_append_left _ ht, same⟩
    · obtain rfl := List.mem_singleton.1 new
      exact (ExportRecord.parentIn_iff _ q).1 parent p hp

end Stores

end ReportExport

namespace ReportExport

open Sql Store

/-- What the INSERT of a record past the last does to a store of records, when
the plan's row is the record's and its CHECK constraints pass: while ids
remain and the record it retries is stored, the row is put and the statement
returns the RETURNING list on the new row; otherwise it fails and the records
stay as they were. -/
theorem Stores.insert_spec {s : RecordStore} {recs : List ExportRecord} (hs : Stores s recs) {plan : InsertPlan}
    {columns : List String} {q : Query} {returning : List ResultColumn}
    (fits : plan.Fits storeSchema exportsTable columns q returning) (params : Array SqlValue) (r : ExportRecord)
    (next : r.id = lastId recs + 1) (row : (hs.plainInsert fits).rowValues params r.id = r.values)
    (passes : firstFalse params [r.scope] (hs.plainInsert fits).checks = none) :
    if lastId recs < maxInteger ∧ r.parentIn (recs ++ [r]) = true then
      (s.conn.execute params (.insert none none "report_exports" none (some columns) (.query q) [] returning)).2 =
        .ok { columns := (hs.plainInsert fits).retNames,
              rows := #[((hs.plainInsert fits).returns.eval params [r.scope]).toArray] } ∧
        Stores { s with conn := (s.conn.execute params
          (.insert none none "report_exports" none (some columns) (.query q) [] returning)).1 } (recs ++ [r])
    else
      (∃ e, (s.conn.execute params (.insert none none "report_exports" none (some columns) (.query q) [] returning)).2 =
        .error e) ∧
        Stores { s with conn := (s.conn.execute params
          (.insert none none "report_exports" none (some columns) (.query q) [] returning)).1 } recs := by
  have past : lastId recs < r.id := next ▸ Int.lt_succ _
  have below : ∀ q ∈ recs, q.id < r.id := fun q hq => Int.lt_of_le_of_lt (id_le_lastId hs.ascending q hq) past
  have bounded : ∀ row ∈ (hs.plainInsert fits).table.rows.toList, row.1 ≤ (hs.plainInsert fits).table.maxRowid := by
    intro row hrow
    rw [Stores.plainInsert_table, List.toList_toArray] at hrow
    obtain ⟨q, hq, rfl⟩ := List.mem_map.1 hrow
    rw [Stores.plainInsert_maxRowid]
    exact id_le_lastId hs.ascending q hq
  have filled : ∀ i < (hs.plainInsert fits).table.columns.size, ((hs.plainInsert fits).table.columns[i]!).notNull.isSome →
      i ≠ 0 → ((hs.plainInsert fits).cell params i).isNull = false := by
    intro i within required nonzero
    rw [← (hs.plainInsert fits).rowValues_getElem _ r.id within nonzero, row]
    exact r.values_filled i within required
  have scope : (hs.plainInsert fits).table.scopeOf r.id r.values = r.scope := rfl
  have keys := checkForeignKeys_created (hs.migrated_appended fits r past) below
  rw [PlainInsert.execute_eq s.conn (hs.plainInsert fits), PlainInsert.insert_eq _ _ bounded filled,
    Stores.plainInsert_lastRowid, ← next]
  by_cases room : lastId recs < maxInteger
  · simp only [room, true_and, ge_iff_le, Int.not_le.2 room, if_false, row, scope, passes,
      Stores.plainInsert_name] at keys ⊢
    simp only [keys]
    by_cases parent : r.parentIn (recs ++ [r]) = true
    · -- the statement returns the new row; what is left is the store
      simp only [parent, if_true, Connection.change, true_and]
      exact hs.appended fits r past parent 1 _
    · simp only [parent, if_false, Connection.change, Bool.false_eq_true]
      exact ⟨⟨_, rfl⟩, hs.unchanged _ _⟩
  · -- the ids have run out
    simp only [room, false_and, if_false, ge_iff_le, Int.not_lt.1 room, if_true, Connection.change]
    exact ⟨⟨_, rfl⟩, hs.unchanged _ _⟩


/-- What creating a record does to a store of records: while ids remain and
the record it retries is stored (or is the new record itself), the new
Pending record is put past the last, under the next id; otherwise the request
fails and the records stay as they were. The clock does not move. -/
theorem Stores.createExport_spec {s : RecordStore} {recs : List ExportRecord} (hs : Stores s recs) (n : NewExport) :
    (s.createExport n).1.clock = s.clock ∧
      if lastId recs < maxInteger ∧
          (n.record (lastId recs + 1) s.clock).parentIn (recs ++ [n.record (lastId recs + 1) s.clock]) = true then
        Stores (s.createExport n).1 (recs ++ [n.record (lastId recs + 1) s.clock])
      else Stores (s.createExport n).1 recs ∧ ∃ e, (s.createExport n).2 = .error e := by
  obtain ⟨text, run, fit, -⟩ := create_statement
  obtain ⟨p, columns, q, returning, parts, count, fits⟩ := InsertPlan.fitsText_sound (fit n s.clock)
  have outcome := hs.insert_spec fits (createArgs n s.clock).toArray (n.record (lastId recs + 1) s.clock) rfl
    (hs.createPlan_rowValues fits n _ s.clock) (hs.firstFalse_created fits _ n _ s.clock)
  rw [run, RecordStore.fetchOne_single hs.isOpen parts _ count.symm]
  -- the request fails exactly when the statement does
  rcases exec : s.conn.execute (createArgs n s.clock).toArray
    (.insert none none "report_exports" none (some columns) (.query q) [] returning) with ⟨c, e | rows⟩ <;>
    rw [exec] at outcome <;>
    by_cases accepted : lastId recs < maxInteger ∧
      (n.record (lastId recs + 1) s.clock).parentIn (recs ++ [n.record (lastId recs + 1) s.clock]) = true
  · simp [accepted] at outcome
  · rw [if_neg accepted] at outcome ⊢
    exact ⟨rfl, outcome.2, _, rfl⟩
  · rw [if_pos accepted] at outcome ⊢
    dsimp only
    cases rows.rows.toList.head? <;> exact ⟨rfl, outcome.2⟩
  · simp [accepted] at outcome

end ReportExport
