import ReportExport.Store.Exports
import ReportExport.Proofs.Engine.Insert
import ReportExport.Proofs.Engine.Update

/-!
# The migrated store

Migration makes four tables: the schema version, the applied migrations,
the export records, and the table that keeps AUTOINCREMENT marks; and two
indexes over the export records, neither unique. This module writes that
schema down as the engine holds it (the definitions below are what running
the schema text gives), and states `Migrated`: a database whose tables are
these, in this order, with whatever rows, and no view or trigger.

Every statement of the repository resolves against the schema alone, so on
every migrated database it resolves as on `storeSchema`, the migrated
database without rows; that is what lets the kernel check the statements
once, on a fixed database (`Migrated.schemaView`).
-/

namespace ReportExport.Store

open Sql

/-! ## The tables -/

/-- A column whose name is read as it is written. -/
private def col (name : String) : Expr := .column none none name false

/-- The table of the schema version. -/
def versionTable : Table :=
  { name := "schema_version",
    columns := #[
      { name := "id", declared := "INTEGER", affinity := .integer, keyPosition := 1 },
      { name := "version", declared := "INTEGER", affinity := .integer, notNull := some none },
      { name := "applied_at", declared := "INTEGER", affinity := .integer, notNull := some none },
      { name := "description", declared := "TEXT", affinity := .text }],
    rowidColumn := some 0,
    checks := [{ e := .binary .eq (col "id") (.number "1" false), name := "id = 1" }],
    addColumnAt := 157 }

/-- The table of applied migrations. -/
def migrationsTable : Table :=
  { name := "schema_migrations",
    columns := #[
      { name := "version", declared := "INTEGER", affinity := .integer, keyPosition := 1 },
      { name := "name", declared := "TEXT", affinity := .text, notNull := some none },
      { name := "applied_at", declared := "INTEGER", affinity := .integer, notNull := some none },
      { name := "checksum", declared := "TEXT", affinity := .text, notNull := some none },
      { name := "execution_time_ms", declared := "INTEGER", affinity := .integer },
      { name := "success", declared := "INTEGER", affinity := .integer, notNull := some none,
        default := some (.number "1" false, "1") }],
    rowidColumn := some 0,
    addColumnAt := 221 }

/-- An INTEGER column. -/
private def integerColumn (name : String) (required : Bool) : Column :=
  { name, declared := "INTEGER", affinity := .integer, notNull := if required then some none else none }

/-- A TEXT column. -/
private def textColumn (name : String) (required : Bool) : Column :=
  { name, declared := "TEXT", affinity := .text, notNull := if required then some none else none }

/-- A retry names the record it retries; deleting that record clears the
name. -/
def retriedKey : ForeignKey :=
  { columns := ["retried_from_id"], parent := "report_exports", parentColumns := ["id"], onDelete := .setNull }

/-- The export records. -/
def exportsTable : Table :=
  { name := "report_exports",
    columns := #[
      { integerColumn "id" false with keyPosition := 1 },
      textColumn "report_kind" true,
      textColumn "descriptor" true,
      textColumn "query_sql" true,
      { textColumn "query_bindings" true with default := some (.literal (.ofString "[]"), "'[]'") },
      { textColumn "status" true with default := some (.literal (.ofString "pending"), "'pending'") },
      { integerColumn "rows_processed" true with default := some (.number "0" false, "0") },
      integerColumn "total_rows" false,
      integerColumn "started_at" false,
      integerColumn "completed_at" false,
      integerColumn "failed_at" false,
      textColumn "error_message" false,
      integerColumn "retried_from_id" false,
      textColumn "disk" true,
      textColumn "path" true,
      textColumn "queue" true,
      textColumn "connection" false,
      textColumn "job_id" false,
      integerColumn "created_at" true,
      integerColumn "updated_at" true],
    rowidColumn := some 0,
    autoincrement := true,
    checks := [
      { e := .inList (col "status") (ExportStatus.all.map fun s => .literal (.ofString s.token)) false,
        name := "status IN ('pending', 'dispatched', 'processing', 'completed', 'failed')" },
      { e := .binary .ge (col "rows_processed") (.number "0" false), name := "rows_processed >= 0" },
      { e := .binary .or (.binary .is (col "total_rows") (.literal .null))
          (.binary .ge (col "total_rows") (.number "0" false)),
        name := "total_rows IS NULL OR total_rows >= 0" }],
    foreignKeys := [retriedKey],
    addColumnAt := 827 }

/-- The two indexes of the export records, on the status and on the record
retried. -/
def exportIndexes : List Index :=
  [{ name := "idx_report_exports_status", table := "report_exports",
     keys := [{ column := some 5, e := col "status" }], unique := false },
   { name := "idx_report_exports_retried_from", table := "report_exports",
     keys := [{ column := some 12, e := col "retried_from_id" }], unique := false }]

/-- The tables of the store with their rows, in the order migration makes
them. -/
def storeTables (versions migrations exports sequence : Array StoredRow) : List Table :=
  [{ versionTable with rows := versions }, { migrationsTable with rows := migrations },
   { exportsTable with rows := exports }, { sequenceTable with rows := sequence }]

/-- The migrated database without rows. -/
def storeSchema : Database :=
  { tables := storeTables #[] #[] #[] #[], indexes := exportIndexes }

/-- A database with the schema migration makes: its tables hold the given
export rows and AUTOINCREMENT marks, and any rows of their own in the two
version tables; the export records have their two indexes; there is no view
or trigger, and foreign keys are enforced. -/
structure Migrated (db : Database) (exports sequence : Array StoredRow) : Prop where
  tables : ∃ versions migrations, db.tables = storeTables versions migrations exports sequence
  indexes : db.indexes = exportIndexes
  views : db.views = []
  triggers : db.triggers = []
  foreignKeysOn : db.foreignKeysOn = true

/-! ## Names -/

theorem sameName_exports_version : sameName "schema_version" "report_exports" = false := by decide +kernel
theorem sameName_exports_migrations : sameName "schema_migrations" "report_exports" = false := by decide +kernel
theorem sameName_exports_self : sameName "report_exports" "report_exports" = true := by decide +kernel
theorem sameName_sequence_version : sameName "schema_version" "sqlite_sequence" = false := by decide +kernel
theorem sameName_sequence_migrations : sameName "schema_migrations" "sqlite_sequence" = false := by
  decide +kernel
theorem sameName_sequence_exports : sameName "report_exports" "sqlite_sequence" = false := by decide +kernel
theorem sameName_exports_sequence : sameName "sqlite_sequence" "report_exports" = false := by decide +kernel
theorem sameName_sequence_self : sameName "sqlite_sequence" "sqlite_sequence" = true := by decide +kernel

/-! ## What a migrated database holds -/

namespace Migrated

variable {db : Database} {exports sequence : Array StoredRow}

theorem table_exports (m : Migrated db exports sequence) :
    db.table? "report_exports" = some { exportsTable with rows := exports } := by
  obtain ⟨vs, ms, h⟩ := m.tables
  simp [Database.table?, h, storeTables, versionTable, migrationsTable, exportsTable, sameName_exports_version,
    sameName_exports_migrations, sameName_exports_self]

theorem table_sequence (m : Migrated db exports sequence) :
    db.table? "sqlite_sequence" = some { sequenceTable with rows := sequence } := by
  obtain ⟨vs, ms, h⟩ := m.tables
  simp [Database.table?, h, storeTables, versionTable, migrationsTable, exportsTable, sequenceTable,
    sameName_sequence_version, sameName_sequence_migrations, sameName_sequence_exports, sameName_sequence_self]

/-- The schema of a migrated database is the migrated schema. -/
theorem schemaView (m : Migrated db exports sequence) : Resolve.schemaView db = Resolve.schemaView storeSchema := by
  obtain ⟨vs, ms, h⟩ := m.tables
  simp [Resolve.schemaView, h, m.views, storeSchema, storeTables]

theorem noView (m : Migrated db exports sequence) (name : String) (change : RowChange) :
    db.triggeredView name change = none := by
  simp [Database.triggeredView, Database.view?, m.views]

theorem noTriggers (m : Migrated db exports sequence) (name : String) : db.hasTriggers name = false := by
  simp [Database.hasTriggers, m.triggers]

/-- Neither index of the export records is unique. -/
theorem noUnique (m : Migrated db exports sequence) (name : String) :
    (db.indexesOf name).filter (·.unique) = [] := by
  rw [Database.indexesOf, m.indexes]
  by_cases h : sameName "report_exports" name <;> simp [exportIndexes, h]

theorem target_exports (m : Migrated db exports sequence) :
    db.targetIn {} "report_exports" = .ok { exportsTable with rows := exports } := by
  have plain : Resolve.isSchemaName "report_exports" = false := by decide +kernel
  simp [Database.targetIn, Database.targetTable, plain, m.table_exports]

/-- Replacing the rows of the export records keeps the schema. -/
theorem setExports (m : Migrated db exports sequence) (rows : Array StoredRow) :
    Migrated (db.setTable { exportsTable with rows }) rows sequence := by
  obtain ⟨vs, ms, h⟩ := m.tables
  refine ⟨⟨vs, ms, ?_⟩, m.indexes, m.views, m.triggers, m.foreignKeysOn⟩
  simp [Database.setTable, h, storeTables, versionTable, migrationsTable, exportsTable, sequenceTable,
    sameName_exports_version, sameName_exports_migrations, sameName_exports_self, sameName_exports_sequence]

/-- Replacing the AUTOINCREMENT marks keeps the schema. -/
theorem setSequence (m : Migrated db exports sequence) (rows : Array StoredRow) :
    Migrated (db.setTable { sequenceTable with rows }) exports rows := by
  obtain ⟨vs, ms, h⟩ := m.tables
  refine ⟨⟨vs, ms, ?_⟩, m.indexes, m.views, m.triggers, m.foreignKeysOn⟩
  simp [Database.setTable, h, storeTables, versionTable, migrationsTable, exportsTable, sequenceTable,
    sameName_sequence_version, sameName_sequence_migrations, sameName_sequence_exports, sameName_sequence_self]

end Migrated

end ReportExport.Store
