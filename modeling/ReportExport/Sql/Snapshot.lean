import ReportExport.Sql.Connection
import ReportExport.Json.Parse
import ReportExport.Json.Print

/-!
# Saving a database

A database is saved as one JSON document: the rows of the schema table (each
object's kind, name, table, page and text), the rows of every table under
their rowids, the pages in use and freed, and the user version. Values keep
their class exactly: doubles are saved by their bits, text and blobs by
their bytes.

Restoring runs the saved definitions in the order of the schema table on an
empty database, so that every object is built by the engine itself, then
puts back the schema table as saved (pages and rowids included) and every
table's rows.
-/

namespace ReportExport.Sql

open Text

/-- The name written at the top of a saved database. -/
def snapshotFormat : String := "reportable-database"

/-- A value as saved. -/
def SqlValue.snapshot : SqlValue → Json
  | .null => .null
  | .integer i => .arr [.str "i", .int i]
  | .real f => .arr [.str "r", .nat f.toBits.toNat]
  | .text s => .arr [.str "t", .arr (s.map fun b => .nat b.toNat)]
  | .blob bs => .arr [.str "b", .arr (bs.map fun b => .nat b.toNat)]

/-- The integer of a saved number. -/
def intOf? : Json → Option Int
  | .num (.int i) => some i
  | _ => none

/-- Saved bytes read back. -/
def bytesOf? (items : List Json) : Option Bytes :=
  items.mapM fun j => (intOf? j).map fun n => UInt8.ofNat n.toNat

/-- A saved value read back. -/
def SqlValue.ofSnapshot? : Json → Option SqlValue
  | .null => some .null
  | .arr [.str "i", n] => (intOf? n).map .integer
  | .arr [.str "r", n] => (intOf? n).map fun b => .real (Float.ofBits (UInt64.ofNat b.toNat))
  | .arr [.str "t", .arr bs] => (bytesOf? bs).map .text
  | .arr [.str "b", .arr bs] => (bytesOf? bs).map .blob
  | _ => none

/-- A saved schema row. -/
def SchemaEntry.snapshot (e : SchemaEntry) : Json :=
  .arr [.int e.rowid, .str e.kind.word, .str e.name, .str e.table, .nat e.rootpage,
    match e.sql with
    | some s => .str s
    | none => .null]

/-- The kind of a saved word. -/
def ObjectKind.ofWord? : String → Option ObjectKind
  | "table" => some .table
  | "index" => some .index
  | "view" => some .view
  | "trigger" => some .trigger
  | _ => none

/-- A saved schema row read back. -/
def SchemaEntry.ofSnapshot? : Json → Option SchemaEntry
  | .arr [rowid, .str kind, .str name, .str table, page, sql] => do
    let rowid ← intOf? rowid
    let kind ← ObjectKind.ofWord? kind
    let page ← intOf? page
    let sql ← match sql with
      | .str s => some (some s)
      | .null => some none
      | _ => none
    pure { rowid, kind, name, table, rootpage := page.toNat, sql }
  | _ => none

/-- A database as saved. -/
def Database.snapshot (db : Database) : Json :=
  .obj [("format", .str snapshotFormat),
    ("schema", .arr (db.schema.toList.map SchemaEntry.snapshot)),
    ("tables", .arr (db.tables.map fun t =>
      .obj [("name", .str t.name),
        ("rows", .arr (t.rows.toList.map fun (rowid, vs) => .arr (.int rowid :: vs.toList.map SqlValue.snapshot)))])),
    ("pages", .nat db.pageCount),
    ("free", .arr (db.freePages.map Json.nat)),
    ("user_version", .int db.userVersion)]

/-- The text of a saved database. -/
def Database.snapshotText (db : Database) : String := db.snapshot.compact

/-- A saved row read back. -/
def rowOfSnapshot? : Json → Option StoredRow
  | .arr (rowid :: vs) => do
    let r ← intOf? rowid
    let values ← vs.mapM SqlValue.ofSnapshot?
    pure (r, values.toArray)
  | _ => none

/-- Runs one saved definition on a database. -/
def Database.define (db : Database) (sql : String) : Option Database :=
  match (({ db } : Connection).run sql []) with
  | (c, .ok _) => some c.db
  | (_, .error _) => none

/-- Reads a saved database back. -/
def Database.ofSnapshot? (j : Json) : Option Database := do
  if j.get? "format" != some (.str snapshotFormat) then none
  let schema ← ((j.get? "schema").bind Json.arr?).bind fun es => es.mapM SchemaEntry.ofSnapshot?
  let definitions := schema.filterMap fun e =>
    if e.name == "sqlite_sequence" then none else e.sql
  let db ← definitions.foldlM Database.define ({ foreignKeysOn := false } : Database)
  let tables ← (j.get? "tables").bind Json.arr?
  let db ← tables.foldlM (fun (db : Database) entry => do
      let name ← (entry.get? "name").bind Json.str?
      let rows ← ((entry.get? "rows").bind Json.arr?).bind fun rs => rs.mapM rowOfSnapshot?
      let t ← db.table? name
      pure (db.setTable { t with rows := rows.toArray })) db
  let pages ← (j.get? "pages").bind intOf?
  let free ← ((j.get? "free").bind Json.arr?).bind fun fs => fs.mapM intOf?
  let userVersion ← (j.get? "user_version").bind intOf?
  pure { db with schema := schema.toArray, pageCount := pages.toNat, freePages := free.map Int.toNat,
                 userVersion, foreignKeysOn := true, changes := 0, totalChanges := 0, lastRowid := 0 }

/-- Reads the text of a saved database back; `none` when the text is not one. -/
def Database.ofSnapshotText? (text : String) : Option Database :=
  match JsonText.read text with
  | .ok j => Database.ofSnapshot? j
  | .error _ => none

end ReportExport.Sql
