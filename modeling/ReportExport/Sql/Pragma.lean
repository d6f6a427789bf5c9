import ReportExport.Sql.Change

/-!
# PRAGMA statements

The pragmas a report or the record store asks about: the columns of a table
(`table_info`, `table_xinfo`), its indexes (`index_list`, `index_info`) and
foreign keys (`foreign_key_list`), whether foreign keys are enforced, the
user version, the journal mode and a WAL checkpoint. Any other pragma gives
no rows, as the engine ignores pragmas it does not know.
-/

namespace ReportExport.Sql

open Text

namespace Database

/-- Runs a PRAGMA; inside a transaction `foreign_keys` cannot be changed. -/
def pragma (db : Database) (inTransaction : Bool) (name : String) (value : Option PragmaValue) :
    Except SqlError (Database × Rows) :=
  let single (column : String) (v : SqlValue) : Rows := { columns := [column], rows := #[#[v]] }
  match name.toLower, value with
  | "foreign_keys", none => .ok (db, single "foreign_keys" (.integer (if db.foreignKeysOn then 1 else 0)))
  | "foreign_keys", some v =>
    if inTransaction then .ok (db, {}) else .ok ({ db with foreignKeysOn := v.flag }, {})
  | "user_version", none => .ok (db, single "user_version" (.integer db.userVersion))
  | "user_version", some v => .ok ({ db with userVersion := (SqlValue.text (bytesOf v.written)).intValue }, {})
  | "schema_version", none => .ok (db, single "schema_version" (.integer db.schemaVersion))
  | "journal_mode", some v => .ok (db, single "journal_mode" (.ofString v.written.toLower))
  | "journal_mode", none => .ok (db, single "journal_mode" (.ofString "wal"))
  | "wal_checkpoint", _ =>
    .ok (db, { columns := ["busy", "log", "checkpointed"], rows := #[#[.integer 0, .integer 0, .integer 0]] })
  | "table_info", some v => .ok (db, db.tableInfo v.written false)
  | "table_xinfo", some v => .ok (db, db.tableInfo v.written true)
  | "index_list", some v => .ok (db, db.indexList v.written)
  | "index_info", some v => .ok (db, db.indexInfo v.written)
  | "index_xinfo", some v => .ok (db, db.indexXinfo v.written)
  | "collation_list", none =>
    .ok (db, { columns := ["seq", "name"],
               rows := #[#[.integer 0, .ofString "RTRIM"], #[.integer 1, .ofString "NOCASE"],
                         #[.integer 2, .ofString "BINARY"]] })
  | "foreign_key_list", some v => .ok (db, db.foreignKeyList v.written)
  | "page_size", none => .ok (db, single "page_size" (.integer 4096))
  | "page_count", none => .ok (db, single "page_count" (.integer db.pageCount))
  | "encoding", none => .ok (db, single "encoding" (.ofString "UTF-8"))
  | _, _ => .ok (db, {})

end Database

end ReportExport.Sql
