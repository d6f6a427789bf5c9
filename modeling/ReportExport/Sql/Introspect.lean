import ReportExport.Sql.Resolve.Query

/-!
# Describing the schema

The rows that describe a table's columns, indexes and foreign keys, as the
pragmas `table_info`, `table_xinfo`, `index_list`, `index_info`,
`index_xinfo` and `foreign_key_list` give them, both as statements and as
the table-valued functions `pragma_table_info(...)` and the like. The
columns of a view are those of its query.
-/

namespace ReportExport.Sql

open Text

/-- What a statement returns: its column names and rows. -/
structure Rows where
  columns : List String := []
  rows : Array (Array SqlValue) := #[]
  deriving Inhabited

/-- The text of a pragma's value. -/
def PragmaValue.written : PragmaValue → String
  | .name s => s
  | .number negative t => (if negative then "-" else "") ++ t
  | .text s => s

/-- A pragma value read as on or off. -/
def PragmaValue.flag (v : PragmaValue) : Bool :=
  match v.written.toLower with
  | "on" | "yes" | "true" => true
  | "off" | "no" | "false" => false
  | t => (SqlValue.text (bytesOf t)).intValue != 0

/-- The word of a foreign key action. -/
def ForeignAction.word : ForeignAction → String
  | .noAction => "NO ACTION"
  | .setNull => "SET NULL"
  | .setDefault => "SET DEFAULT"
  | .cascade => "CASCADE"
  | .restrict => "RESTRICT"

/-- A value of a text, or NULL. -/
def optionalText (s : Option String) : SqlValue :=
  match s with
  | some t => .ofString t
  | none => .null

namespace Database

/-- The rows of `table_info` (with `hidden` for `table_xinfo`). -/
def tableInfo (db : Database) (name : String) (extended : Bool) : Rows :=
  let columns := ["cid", "name", "type", "notnull", "dflt_value", "pk"] ++ (if extended then ["hidden"] else [])
  let hidden : List SqlValue := if extended then [.integer 0] else []
  match db.table? name with
  | some t =>
    -- generated columns are shown only by table_xinfo: hidden 2 when
    -- VIRTUAL, 3 when STORED; the others are numbered without them
    let shown := (List.range t.columns.size).filter fun i =>
      extended || (t.columns[i]?.bind (·.generated)).isNone
    let rows := (List.range shown.length).toArray.map fun (k : Nat) =>
      let i := shown.getD k 0
      let c : Column := t.columns[i]!
      let (dflt, kind) : SqlValue × List SqlValue := match c.generated with
        | some g => (.null, if extended then [.integer (if g.stored then 3 else 2)] else [])
        | none => (optionalText (c.default.map (·.2)), hidden)
      (#[.integer k, .ofString c.name, .ofString c.declared, .integer (if c.notNull.isSome then 1 else 0),
        dflt, .integer c.keyPosition] ++ kind.toArray : Array SqlValue)
    { columns, rows }
  | none =>
    match db.view? name with
    | some v =>
      match Resolve.resolveQuery db v.query with
      | .ok r =>
        let names := match v.columns with
          | some cs => cs.toArray
          | none => r.viewNames
        let rows := (List.range r.tableColumns.size).toArray.map fun (i : Nat) =>
          let c := r.tableColumns[i]!
          (#[.integer i, .ofString (names[i]?.getD c.name), .ofString c.declared, .integer 0, .null, .integer 0] ++
            hidden.toArray : Array SqlValue)
        { columns, rows }
      | .error _ => { columns }
    | none => { columns }

/-- The rows of `index_list`. -/
def indexList (db : Database) (name : String) : Rows :=
  let columns := ["seq", "name", "unique", "origin", "partial"]
  let ixs := (db.indexesOf name).reverse
  let origin (ix : Index) : String := match ix.origin with
    | .created => "c"
    | .unique => "u"
    | .primaryKey => "pk"
  let rows := (List.range ixs.length).toArray.map fun (i : Nat) =>
    let ix := ixs.getD i default
    (#[.integer i, .ofString ix.name, .integer (if ix.unique then 1 else 0), .ofString (origin ix),
      .integer (if ix.filter.isSome then 1 else 0)] : Array SqlValue)
  { columns, rows }

/-- The rows of `index_info`. -/
def indexInfo (db : Database) (name : String) : Rows :=
  let columns := ["seqno", "cid", "name"]
  match db.index? name with
  | some ix =>
    let t := db.table? ix.table
    let rows := (List.range ix.keys.length).toArray.map fun (i : Nat) =>
      let k := ix.keys.getD i default
      match k.column with
      | some c =>
        (#[.integer i, .integer c, optionalText (t.bind fun t => t.columns[c]?.map (·.name))] : Array SqlValue)
      | none => #[.integer i, .integer (-2), .null]
    { columns, rows }
  | none => { columns }

/-- The rows of `index_xinfo`: the key columns of an index, then the rowid
(or, without one, the primary key columns it leads to). -/
def indexXinfo (db : Database) (name : String) : Rows :=
  let columns := ["seqno", "cid", "name", "desc", "coll", "key"]
  match db.index? name with
  | some ix =>
    let t := db.table? ix.table
    let keyRows := (List.range ix.keys.length).map fun (i : Nat) =>
      let k := ix.keys.getD i default
      let (cid, cname) : SqlValue × SqlValue := match k.column with
        | some c => (.integer c, optionalText (t.bind fun t => t.columns[c]?.map (·.name)))
        | none => (.integer (-2), .null)
      (#[.integer i, cid, cname, .integer (if k.descending then 1 else 0),
        .ofString k.collation.name.toUpper, .integer 1] : Array SqlValue)
    let rowidRow : Array SqlValue :=
      #[.integer ix.keys.length, .integer (-1), .null, .integer 0, .ofString "BINARY", .integer 0]
    { columns, rows := (keyRows ++ [rowidRow]).toArray }
  | none => { columns }

/-- The rows of `foreign_key_list`. -/
def foreignKeyList (db : Database) (name : String) : Rows :=
  let columns := ["id", "seq", "table", "from", "to", "on_update", "on_delete", "match"]
  match db.table? name with
  | some t =>
    let fks := t.foreignKeys.reverse
    let rows := (List.range fks.length).toArray.flatMap fun (i : Nat) =>
      let fk := fks.getD i default
      (List.range fk.columns.length).toArray.map fun (j : Nat) =>
        (#[.integer i, .integer j, .ofString fk.parent, .ofString (fk.columns.getD j ""),
          optionalText (fk.parentColumns[j]?), .ofString fk.onUpdate.word, .ofString fk.onDelete.word,
          .ofString "NONE"] : Array SqlValue)
    { columns, rows }
  | none => { columns }

/-- The rows of a pragma read as a table, each led by its rowid and followed
by the hidden columns. -/
def pragmaTableRows (db : Database) (name : String) (args : List SqlValue) : Array (Array SqlValue) :=
  let arg := args.headD .null
  let argText := lenientString arg.textBytes
  let rows : Array (Array SqlValue) := match name with
    | "table_info" => if arg.isNull then #[] else (db.tableInfo argText false).rows
    | "table_xinfo" => if arg.isNull then #[] else (db.tableInfo argText true).rows
    | "index_list" => if arg.isNull then #[] else (db.indexList argText).rows
    | "index_info" => if arg.isNull then #[] else (db.indexInfo argText).rows
    | "index_xinfo" => if arg.isNull then #[] else (db.indexXinfo argText).rows
    | "foreign_key_list" => if arg.isNull then #[] else (db.foreignKeyList argText).rows
    | "collation_list" => #[#[.integer 0, .ofString "RTRIM"], #[.integer 1, .ofString "NOCASE"],
                            #[.integer 2, .ofString "BINARY"]]
    | "user_version" => #[#[.integer db.userVersion]]
    | "schema_version" => #[#[.integer db.schemaVersion]]
    | "foreign_keys" => #[#[.integer (if db.foreignKeysOn then 1 else 0)]]
    | "page_size" => #[#[.integer 4096]]
    | "page_count" => #[#[.integer db.pageCount]]
    | "encoding" => #[#[.ofString "UTF-8"]]
    | _ => #[]
  let hidden : Array SqlValue := match pragmaTableShape name with
    | some (_, true) => #[arg, args.getD 1 .null]
    | _ => #[]
  (rows.zipIdx).map fun (r, k) => #[SqlValue.integer (k + 1)] ++ r ++ hidden

end Database

end ReportExport.Sql
