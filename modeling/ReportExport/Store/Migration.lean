import ReportExport.Store.Database
import ReportExport.Text.Sha256

/-!
# Schema migrations

A fresh database gets the whole schema at the current version, in one
transaction that also records the version and the applied migration with the
SHA-256 checksum of the schema text. A database that already has the version
table is brought up from its recorded version one version at a time; a
missing version row counts as version 0, and only version 1 (the initial
schema) is known. A version at or above the current one needs nothing.
-/

namespace ReportExport.Store

open Sql

/-- The schema version this library writes. -/
def schemaVersion : Int := 1

/-- The complete schema of a fresh database. -/
def schemaText : String := "
-- =============================================================================
-- Infrastructure: Schema version tracking
-- =============================================================================
CREATE TABLE IF NOT EXISTS schema_version (
    id INTEGER PRIMARY KEY CHECK (id = 1),
    version INTEGER NOT NULL,
    applied_at INTEGER NOT NULL,
    description TEXT
);

CREATE TABLE IF NOT EXISTS schema_migrations (
    version INTEGER PRIMARY KEY,
    name TEXT NOT NULL,
    applied_at INTEGER NOT NULL,
    checksum TEXT NOT NULL,
    execution_time_ms INTEGER,
    success INTEGER NOT NULL DEFAULT 1
);

-- =============================================================================
-- Report exports
-- =============================================================================
CREATE TABLE IF NOT EXISTS report_exports (
    id INTEGER PRIMARY KEY AUTOINCREMENT,
    report_kind TEXT NOT NULL,
    descriptor TEXT NOT NULL,
    query_sql TEXT NOT NULL,
    query_bindings TEXT NOT NULL DEFAULT '[]',
    status TEXT NOT NULL DEFAULT 'pending' CHECK(status IN ('pending', 'dispatched', 'processing', 'completed', 'failed')),
    rows_processed INTEGER NOT NULL DEFAULT 0 CHECK(rows_processed >= 0),
    total_rows INTEGER CHECK(total_rows IS NULL OR total_rows >= 0),
    started_at INTEGER,
    completed_at INTEGER,
    failed_at INTEGER,
    error_message TEXT,
    retried_from_id INTEGER REFERENCES report_exports(id) ON DELETE SET NULL,
    disk TEXT NOT NULL,
    path TEXT NOT NULL,
    queue TEXT NOT NULL,
    connection TEXT,
    job_id TEXT,
    created_at INTEGER NOT NULL,
    updated_at INTEGER NOT NULL
);

CREATE INDEX IF NOT EXISTS idx_report_exports_status ON report_exports(status);
CREATE INDEX IF NOT EXISTS idx_report_exports_retried_from ON report_exports(retried_from_id);
"

/-- The checksum recorded for the initial schema. -/
def schemaChecksum : String := Text.Sha256.hexDigest schemaText

namespace RecordStore

/-- Applies the whole schema and records version 1, in one transaction. -/
def applyInitialSchema (s : RecordStore) : Outcome Unit :=
  s.transaction fun s =>
    let now := s.clock * 1000000000
    match s.execute schemaText [] with
    | (s, .error e) => (s, .error (.driver e))
    | (s, .ok _) =>
      match s.execute ("INSERT INTO schema_version (id, version, applied_at, description) " ++
          "VALUES (1, ?, ?, 'Initial schema')") [.integer schemaVersion, .integer now] with
      | (s, .error e) => (s, .error (.driver e))
      | (s, .ok _) =>
        match s.execute ("INSERT INTO schema_migrations (version, name, applied_at, checksum, " ++
            "execution_time_ms, success) VALUES (?, ?, ?, ?, ?, 1)")
            [.integer schemaVersion, .ofString "initial_schema", .integer now, .ofString schemaChecksum,
             .integer 0] with
        | (s, .error e) => (s, .error (.driver e))
        | (s, .ok _) => (s, .ok ())

/-- Applies the migration to one version. -/
def applyMigration (s : RecordStore) (version : Int) : Outcome Unit :=
  if version = 1 then s.applyInitialSchema
  else (s, .error (.migrationFailed version "unknown" ("Unknown migration version: " ++ toString version)))

/-- Applies the migrations to the versions in turn, stopping at the first
failure. -/
def applyMigrations (s : RecordStore) : List Int → Outcome Unit
  | [] => (s, .ok ())
  | v :: rest =>
    match s.applyMigration v with
    | (s, .error e) => (s, .error e)
    | (s, .ok ()) => applyMigrations s rest

/-- The versions strictly above `current` up to the schema version. -/
def pendingVersions (current : Int) : List Int :=
  (List.range (schemaVersion - current).toNat).map fun (i : Nat) => current + 1 + (i : Int)

/-- Brings the database to the schema version. -/
def migrate (s : RecordStore) : Outcome Unit :=
  match s.fetchOne ("SELECT COUNT(*) > 0 FROM sqlite_master " ++
      "WHERE type='table' AND name='schema_version'") [] with
  | (s, .error e) => (s, .error (.driver e))
  | (s, .ok row) =>
    match row.bool (.index 0) with
    | .error e => (s, .error (.driver e))
    | .ok false => s.applyInitialSchema
    | .ok true =>
      match s.fetchOptional "SELECT version FROM schema_version WHERE id = 1" [] with
      | (s, .error e) => (s, .error (.driver e))
      | (s, .ok row?) =>
        let current := match row? with
          | some row => row.int32 (.index 0)
          | none => .ok 0
        match current with
        | .error e => (s, .error (.driver e))
        | .ok current =>
          if current ≥ schemaVersion then (s, .ok ())
          else s.applyMigrations (pendingVersions current)

end RecordStore

end ReportExport.Store
