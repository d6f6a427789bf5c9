import ReportExport.Sql.Row
import ReportExport.Sql.Parser.Statement

/-!
# Defining schema objects

CREATE TABLE turns a definition into a table: its columns with their
affinities (from the declared type; none declared is blob) and collations,
the rowid alias (a lone `INTEGER PRIMARY KEY`, unless declared DESC on the
column), and an index for every other PRIMARY KEY and UNIQUE constraint,
named `sqlite_autoindex_<table>_<n>` in the order the constraints are
written. The table takes the next page, then each of its indexes; the
schema table lists the table with its text and the indexes without text.
An AUTOINCREMENT table brings `sqlite_sequence` with it.

A table made from a query is written out as `CREATE TABLE name(col TYPE,...)`
with the type word of each column's affinity, and is then built from that
text like any other.

ALTER TABLE renames a table (writing the new name in double quotes into
the stored texts), renames, adds or drops a column. An added column's text is
spliced into the stored definition after the last column; rows already
stored read its default.
-/

namespace ReportExport.Sql

open Text

/-- Whether a name is kept for the engine's own objects. -/
def isReservedName (name : String) : Bool := sameName (String.ofList (name.toList.take 7)) "sqlite_"

/-- Whether an expression reads nothing but constants: no column, parameter
or subquery. -/
def Expr.isConstant : Nat → Expr → Bool
  | 0, _ => false
  | fuel + 1, e =>
    match e with
    | .literal _ | .number _ _ => true
    | .param _ | .column _ _ _ _ | .subquery _ | .exists _ | .inQuery _ _ _ | .inTable _ _ _ => false
    | .raise _ _ => false
    | .unary _ a | .collate a _ | .cast a _ | .isNull a _ | .truth a _ _ => Expr.isConstant fuel a
    | .binary _ a b => Expr.isConstant fuel a && Expr.isConstant fuel b
    | .between a b c _ => Expr.isConstant fuel a && Expr.isConstant fuel b && Expr.isConstant fuel c
    | .inList a items _ => Expr.isConstant fuel a && items.all (Expr.isConstant fuel)
    | .pattern _ a b esc _ =>
      Expr.isConstant fuel a && Expr.isConstant fuel b && esc.all (Expr.isConstant fuel)
    | .caseOf op bs other =>
      op.all (Expr.isConstant fuel) && bs.all (fun (x, y) => Expr.isConstant fuel x && Expr.isConstant fuel y) &&
        other.all (Expr.isConstant fuel)
    | .call _ args _ _ _ _ overClause => overClause.isNone && args.all (Expr.isConstant fuel)
    | .row items => items.all (Expr.isConstant fuel)

/-! ## Writing definitions -/

/-- Whether a byte is an ASCII letter or digit. -/
def isAsciiAlnum (b : UInt8) : Bool :=
  (0x30 ≤ b && b ≤ 0x39) || (0x41 ≤ b && b ≤ 0x5a) || (0x61 ≤ b && b ≤ 0x7a)

/-- An identifier as the engine writes it into a definition: bare when it is
a plain word that is no keyword, else in double quotes. -/
def writeIdent (name : String) : String :=
  let bs := bytesOf name
  let plain := bs.all fun b => isAsciiAlnum b || b == 0x5f
  let leadDigit := match bs with
    | b :: _ => 0x30 ≤ b && b ≤ 0x39
    | [] => true
  if plain && !leadDigit && !keywords.contains name.toUpper then name
  else "\"" ++ String.intercalate "\"\"" (name.splitOn "\"") ++ "\""

/-- The room an identifier takes when the engine sizes a definition. -/
def identLength (name : String) : Nat :=
  (bytesOf name).length + ((bytesOf name).filter (· == 0x22)).length + 2

/-- The type word of a column of a table made from a query. -/
def typeWordOf : Affinity → String
  | .text => " TEXT"
  | .numeric => " NUM"
  | .integer => " INT"
  | .real => " REAL"
  | _ => ""

/-- The definition of a table made from a query: on one line when short,
else one column a line. -/
def tableText (name : String) (cols : List (String × Affinity)) : String :=
  let n := cols.foldl (fun n (c, _) => n + identLength c + 5) 0 + identLength name
  let (first, sep, close) := if n < 50 then ("", ",", ")") else ("\n  ", ",\n  ", "\n)")
  let parts := (List.range cols.length).map fun i =>
    let (c, a) := cols.getD i ("", .blob)
    (if i == 0 then first else sep) ++ writeIdent c ++ typeWordOf a
  "CREATE TABLE " ++ writeIdent name ++ "(" ++ String.join parts ++ close

/-! ## Building tables -/

/-- The collation of a name. -/
def collationNamed (n : String) : Except SqlError Collation :=
  match Collation.ofName? n with
  | some c => .ok c
  | none => .error (.general ("no such collation sequence: " ++ n))

/-- The affinity a STRICT table gives a type, if the type is allowed there. -/
def strictAffinity (declared : String) : Option Affinity :=
  match declared.toUpper with
  | "INT" | "INTEGER" => some .integer
  | "REAL" => some .real
  | "TEXT" => some .text
  | "BLOB" | "ANY" => some .blob
  | _ => none

/-- A column of a table from its definition. -/
def columnOf (table : String) (strict : Bool) (c : ColumnDef) : Except SqlError Column := do
  let collation ← match c.collation with
    | some n => collationNamed n
    | none => pure .binary
  let affinity ←
    if strict then
      if c.declared == "" then throw (.general ("missing datatype for " ++ table ++ "." ++ c.name))
      else match strictAffinity c.declared with
        | some a => pure a
        | none => throw (.general ("unknown datatype for " ++ table ++ "." ++ c.name ++ ": \"" ++ c.declared ++ "\""))
    else pure (if c.declared == "" then .blob else affinityOfType c.declared)
  if let some (e, _) := c.default then
    if !Expr.isConstant 64 e then
      throw (.general ("default value of column [" ++ c.name ++ "] is not constant"))
  pure { name := c.name, declared := c.declared, affinity, collation, notNull := c.notNull,
         default := c.default, generated := c.generated }

/-- A key part of an index over a table. -/
def keyPartOf (t : Table) (ic : IndexedColumn) : Except SqlError KeyPart := do
  let coll ← match ic.collation with
    | some n => do
      let c ← collationNamed n
      pure (some c)
    | none => pure none
  match ic.e with
  | .column none none n _ =>
    match t.columnIndex? n with
    | some i =>
      pure { column := some i, e := ic.e, collation := coll.getD (t.columns[i]!).collation,
             descending := ic.descending }
    | none =>
      if sameName n "rowid" || sameName n "oid" || sameName n "_rowid_" then
        pure { column := none, e := ic.e, collation := coll.getD .binary, descending := ic.descending }
      else throw (.general ("no such column: " ++ n))
  | e => pure { column := none, e, collation := coll.getD .binary, descending := ic.descending }

/-- Whether two indexes have the same keys. -/
def sameKeys (a b : List KeyPart) : Bool :=
  a.length == b.length && (a.zip b).all fun (x, y) => x.column == y.column && x.column.isSome &&
    x.collation == y.collation

/-- A table and its automatic indexes from a definition. -/
def buildTable (name : String) (body : TableDef) : Except SqlError (Table × List Index) := do
  let mut cols : Array Column := #[]
  for c in body.columns do
    if cols.any (fun x => sameName x.name c.name) then
      throw (.general ("duplicate column name: " ++ c.name))
    let col ← columnOf name body.strict c
    cols := cols.push col
  let base : Table := { name, columns := cols, withoutRowid := body.withoutRowid, strict := body.strict,
                        addColumnAt := body.addColumnAt }
  let indexed := (List.range body.columns.length).zip body.columns
  let columnKeys := indexed.filterMap fun (i, c) => c.primaryKey.map fun (d, r, a) => (i, d, r, a)
  let tableKeys := body.constraints.filterMap fun
    | .primaryKey cs a r => some (cs, a, r)
    | _ => none
  if columnKeys.length + tableKeys.length > 1 then
    throw (.general ("table \"" ++ name ++ "\" has more than one primary key"))
  for (cs, _, _) in tableKeys do
    for ic in cs do
      if let .column none none n _ := ic.e then
        if let some i := base.columnIndex? n then
          if (cols[i]!).generated.isSome then
            throw (.general "generated columns cannot be part of the PRIMARY KEY")
  let isInteger (i : Nat) : Bool := (cols[i]!).declared.toUpper == "INTEGER"
  let single (cs : List IndexedColumn) : Option Nat := match cs with
    | [ic] => match ic.e with
      | .column none none n _ => base.columnIndex? n
      | _ => none
    | _ => none
  let (rowidColumn, autoincrement, keyResolution) : Option Nat × Bool × Option Resolution :=
    match columnKeys, tableKeys with
    | [(i, d, r, a)], [] => (if isInteger i && !d && !body.withoutRowid then some i else none, a, r)
    | [], [(cs, a, r)] =>
      match single cs with
      | some i => (if isInteger i && !body.withoutRowid then some i else none, a, r)
      | none => (none, a, r)
    | _, _ => (none, false, none)
  if autoincrement && rowidColumn.isNone then
    throw (.general "AUTOINCREMENT is only allowed on an INTEGER PRIMARY KEY")
  if body.withoutRowid && columnKeys.isEmpty && tableKeys.isEmpty then
    throw (.general ("PRIMARY KEY missing on table " ++ name))
  let mut indexes : Array Index := #[]
  let mut keyColumns : List Nat := rowidColumn.toList
  let autoName (k : Nat) : String := "sqlite_autoindex_" ++ name ++ "_" ++ toString k
  for (i, c) in indexed do
    if let some (d, r, _) := c.primaryKey then
      if rowidColumn != some i then
        let keys := [({ column := some i, e := .column none none c.name false, collation := (cols[i]!).collation,
                        descending := d } : KeyPart)]
        keyColumns := [i]
        if !indexes.any (fun x => sameKeys x.keys keys) then
          indexes := indexes.push { name := autoName (indexes.size + 1), table := name, keys, unique := true,
                                    origin := .primaryKey, resolution := r }
    for r in c.unique do
      let keys := [({ column := some i, e := .column none none c.name false, collation := (cols[i]!).collation } :
        KeyPart)]
      if !indexes.any (fun x => sameKeys x.keys keys) then
        indexes := indexes.push { name := autoName (indexes.size + 1), table := name, keys, unique := true,
                                  origin := .unique, resolution := r }
  for tc in body.constraints do
    match tc with
    | .primaryKey cs _ r =>
      if rowidColumn.isNone then
        let keys ← cs.mapM (keyPartOf base)
        keyColumns := keys.filterMap (·.column)
        if !indexes.any (fun x => sameKeys x.keys keys) then
          indexes := indexes.push { name := autoName (indexes.size + 1), table := name, keys, unique := true,
                                    origin := .primaryKey, resolution := r }
      else
        let _ ← cs.mapM (keyPartOf base)
    | .unique cs r =>
      let keys ← cs.mapM (keyPartOf base)
      if !indexes.any (fun x => sameKeys x.keys keys) then
        indexes := indexes.push { name := autoName (indexes.size + 1), table := name, keys, unique := true,
                                  origin := .unique, resolution := r }
    | _ => pure ()
  let columnChecks := body.columns.flatMap (·.checks)
  let tableChecks := body.constraints.filterMap fun
    | .check c => some c
    | _ => none
  let columnRefs := body.columns.flatMap (·.references)
  let tableRefs := body.constraints.filterMap fun
    | .foreignKey fk => some fk
    | _ => none
  let numbered := (List.range cols.size).toArray.map fun i =>
    let c := cols[i]!
    match keyColumns.idxOf? i with
    | some k => { c with keyPosition := k + 1 }
    | none => c
  let table := { base with columns := numbered, rowidColumn, autoincrement, keyResolution,
                           checks := columnChecks ++ tableChecks, foreignKeys := columnRefs ++ tableRefs }
  pure (table, indexes.toList)

/-! ## Creating objects -/

/-- The table that keeps the AUTOINCREMENT marks. -/
def sequenceTable : Table :=
  { name := "sqlite_sequence", columns := #[{ name := "name" }, { name := "seq" }], addColumnAt := 34 }

namespace Database

/-- Fails when a name is kept for the engine. -/
def checkName (name : String) : Except SqlError Unit :=
  if isReservedName name then .error (.general ("object name reserved for internal use: " ++ name))
  else .ok ()

/-- Adds a table with its indexes: the table's page, then one per index. -/
def addTable (db : Database) (t : Table) (indexes : List Index) (text : String) : Database := Id.run do
  let (db, page) := db.allocatePage
  let mut db := { db with tables := db.tables ++ [t] }
  db := db.addEntry .table t.name t.name page (some text)
  for ix in indexes do
    if t.withoutRowid && ix.origin == .primaryKey then
      db := { db with indexes := db.indexes ++ [ix] }
    else
      let (db', p) := db.allocatePage
      db := { db' with indexes := db'.indexes ++ [ix] }
      db := db.addEntry .index ix.name t.name p none
  if t.autoincrement && (db.table? "sqlite_sequence").isNone then
    let (db', p) := db.allocatePage
    db := { db' with tables := db'.tables ++ [sequenceTable] }
    db := db.addEntry .table "sqlite_sequence" "sqlite_sequence" p (some "CREATE TABLE sqlite_sequence(name,seq)")
  return db

/-- CREATE TABLE. -/
def createTable (db : Database) (ifNotExists : Bool) (name : String) (body : TableDef) (text : String) :
    Except SqlError Database := do
  checkName name
  match db.table?, db.view? name with
  | _, some _ => if ifNotExists then return db else throw (.general ("view " ++ name ++ " already exists"))
  | _, none =>
    if (db.table? name).isSome then
      if ifNotExists then return db else throw (.general ("table " ++ name ++ " already exists"))
  if (db.index? name).isSome then throw (.general ("there is already an index named " ++ name))
  let (t, indexes) ← buildTable name body
  db.checkGenerated t
  pure (db.addTable t indexes text)

/-- Stores rows in a new table made from a query, numbering them from one,
each value given the column's affinity. -/
def fillTable (db : Database) (name : String) (rows : Array (Array SqlValue)) : Database :=
  match db.table? name with
  | some t =>
    let stored := (List.range rows.size).toArray.map fun i =>
      (((i + 1 : Nat) : Int), (List.range t.columns.size).toArray.map fun j =>
        ((rows[i]!)[j]?.getD .null).stored (t.columns[j]!).affinity)
    db.setTable { t with rows := stored }
  | none => db

/-- CREATE TABLE ... AS SELECT. -/
def createTableAs (db : Database) (ifNotExists : Bool) (name : String) (q : Query) :
    Except SqlError Database := do
  checkName name
  if (db.view? name).isSome then
    if ifNotExists then return db else throw (.general ("view " ++ name ++ " already exists"))
  if (db.table? name).isSome then
    if ifNotExists then return db else throw (.general ("table " ++ name ++ " already exists"))
  if (db.index? name).isSome then throw (.general ("there is already an index named " ++ name))
  let r ← Resolve.resolveQuery db q
  let (rows, db) ← db.runEval #[] (runPlan 100000 [] r.plan)
  let text := tableText name (r.tableColumns.toList.map fun c => (c.name, c.affinity))
  match Parser.Source.parseAt (Parser.Source.ofBytes (bytesOf text)) 0 with
  | .ok p =>
    match p.statement with
    | .createTable _ _ _ body _ =>
      let (t, indexes) ← buildTable name body
      pure ((db.addTable t indexes text).fillTable name rows)
    | _ => throw (.general "malformed table definition")
  | .error m => throw (.general m)

/-- The values of an index's keys for a row led by its rowid. -/
def keyValues (db : Database) (t : Table) (ix : Index) (row : Array SqlValue) : Except SqlError (List SqlValue) :=
  ix.keys.mapM fun k =>
    match k.column with
    | some i => .ok (row[i + 1]?.getD .null)
    | none => do
      let ts ← Resolve.resolveOver db (some (Resolve.tableLevel t t.name)) [] [k.e]
      match ts with
      | [(term, _)] => do
        let (v, _) ← db.runEval #[] (evalTerm 100000 [({ row } : Scope)] term)
        pure v
      | _ => pure .null

/-- The text naming the columns of an index in a uniqueness failure. -/
def keyLabel (t : Table) (ix : Index) : String :=
  if ix.keys.all (·.column.isSome) then
    ", ".intercalate (ix.keys.map fun k => t.name ++ "." ++ ((k.column.bind (t.columns[·]?)).map (·.name)).getD "")
  else "index '" ++ ix.name ++ "'"

/-- Whether two key tuples collide: no NULL in them, and every pair equal
under the key's collation. -/
def keysCollide (ix : Index) (a b : List SqlValue) : Bool :=
  a.all (!·.isNull) && a.length == b.length &&
    ((ix.keys.zip (a.zip b)).all fun (k, x, y) => x.compareWith k.collation y == .eq)

/-- CREATE INDEX. -/
def createIndex (db : Database) (unique ifNotExists : Bool) (name table : String)
    (columns : List IndexedColumn) (filter : Option Expr) (text : String) : Except SqlError Database := do
  checkName name
  if (db.index? name).isSome then
    if ifNotExists then return db else throw (.general ("index " ++ name ++ " already exists"))
  if (db.table? name).isSome || (db.view? name).isSome then
    throw (.general ("there is already a table named " ++ name))
  let t ← match db.table? table with
    | some t => pure t
    | none =>
      if (db.view? table).isSome then throw (.general "views may not be indexed")
      else throw (.general ("no such table: main." ++ table))
  if isReservedName t.name then throw (.general ("table " ++ t.name ++ " may not be indexed"))
  let keys ← columns.mapM (keyPartOf t)
  let ix : Index := { name, table := t.name, keys, unique, filter }
  if unique then
    let mut seen : List (List SqlValue) := []
    for (rowid, vals) in t.rows do
      let k ← db.keyValues t ix (#[.integer rowid] ++ vals)
      if seen.any (keysCollide ix k) then
        throw (.constraint 2067 ("UNIQUE constraint failed: " ++ keyLabel t ix))
      seen := k :: seen
  let (db, page) := db.allocatePage
  let db := { db with indexes := db.indexes ++ [ix] }
  pure (db.addEntry .index name t.name page (some text))

/-- CREATE VIEW. -/
def createView (db : Database) (ifNotExists : Bool) (name : String) (columns : Option (List String))
    (q : Query) (text : String) : Except SqlError Database := do
  checkName name
  if (db.view? name).isSome then
    if ifNotExists then return db else throw (.general ("view " ++ name ++ " already exists"))
  if (db.table? name).isSome then
    if ifNotExists then return db else throw (.general ("table " ++ name ++ " already exists"))
  if (db.index? name).isSome then throw (.general ("there is already an index named " ++ name))
  let db := { db with views := db.views ++ [({ name, columns, query := q } : View)] }
  pure (db.addEntry .view name name 0 (some text))

/-- CREATE TRIGGER. -/
def createTrigger (db : Database) (ifNotExists : Bool) (name : String) (time : TriggerTime)
    (event : TriggerEvent) (table : String) (condition : Option Expr) (body : List Statement) (text : String) :
    Except SqlError Database := do
  checkName name
  if (db.trigger? name).isSome then
    if ifNotExists then return db else throw (.general ("trigger " ++ name ++ " already exists"))
  let tableName ← match db.table? table, db.view? table with
    | some t, _ =>
      if isReservedName t.name then throw (.general "cannot create trigger on system table")
      else if time == .insteadOf then
        throw (.general ("cannot create INSTEAD OF trigger on table: " ++ t.name))
      else pure t.name
    | none, some v =>
      if time != .insteadOf then
        throw (.general ("cannot create " ++ (if time == .before then "BEFORE" else "AFTER") ++
          " trigger on view: " ++ v.name))
      else pure v.name
    | none, none => throw (.general ("no such table: main." ++ table))
  let db := { db with triggers := db.triggers ++ [({ name, table := tableName, time, event, condition, body } : Trigger)] }
  pure (db.addEntry .trigger name tableName 0 (some text))

/-! ## Dropping objects -/

/-- Removes a table, its indexes and triggers, and its AUTOINCREMENT mark. -/
def removeTable (db : Database) (name : String) : Database :=
  let gone := (db.indexesOf name).map (·.name) ++
    (db.triggers.filter (fun tr => sameName tr.table name)).map (·.name)
  let db := gone.foldl removeEntry db
  let db := db.removeEntry name
  let db := { db with tables := db.tables.filter (fun t => !sameName t.name name),
                      indexes := db.indexes.filter (fun i => !sameName i.table name),
                      triggers := db.triggers.filter (fun tr => !sameName tr.table name) }
  match db.table? "sqlite_sequence" with
  | some s =>
    db.setTable { s with rows := s.rows.filter fun (_, vs) =>
      match (vs[0]? : Option SqlValue) with
      | some (.text b) => !sameName (lenientString b) name
      | _ => true }
  | none => db

/-- DROP TABLE, INDEX, VIEW or TRIGGER. -/
def dropObject (db : Database) (kind : ObjectKind) (ifExists : Bool) (name : String) :
    Except SqlError Database := do
  match kind with
  | .table | .view =>
    match db.table? name, db.view? name with
    | some t, _ =>
      if kind == .view then throw (.general ("use DROP TABLE to delete table " ++ t.name))
      if isReservedName t.name then throw (.general ("table " ++ t.name ++ " may not be dropped"))
      if db.foreignKeysOn then
        let referring := db.tables.filter fun c =>
          !sameName c.name t.name && c.foreignKeys.any (fun fk => sameName fk.parent t.name) && !c.rows.isEmpty
        if !referring.isEmpty && !t.rows.isEmpty then
          throw (.constraint 787 "FOREIGN KEY constraint failed")
      pure (db.removeTable t.name)
    | none, some v =>
      if kind == .table then throw (.general ("use DROP VIEW to delete view " ++ v.name))
      let db := db.removeEntry v.name
      pure { db with views := db.views.filter (fun x => !sameName x.name v.name) }
    | none, none =>
      if ifExists then pure db
      else throw (.general ((if kind == .view then "no such view: " else "no such table: ") ++ name))
  | .index =>
    match db.index? name with
    | some ix =>
      if ix.origin != .created then
        throw (.general "index associated with UNIQUE or PRIMARY KEY constraint cannot be dropped")
      let db := db.removeEntry ix.name
      pure { db with indexes := db.indexes.filter (fun x => !sameName x.name ix.name) }
    | none => if ifExists then pure db else throw (.general ("no such index: " ++ name))
  | .trigger =>
    match db.trigger? name with
    | some tr =>
      let db := db.removeEntry tr.name
      pure { db with triggers := db.triggers.filter (fun x => !sameName x.name tr.name) }
    | none => if ifExists then pure db else throw (.general ("no such trigger: " ++ name))

/-! ## Altering tables -/

/-- Replaces the bytes of a token in a text. -/
def spliceToken (text : String) (tok : Token) (replacement : String) : String :=
  let bs := bytesOf text
  lenientString (bs.take tok.start ++ bytesOf replacement ++ bs.drop tok.stop)

/-- A stored definition with the name after its leading words replaced. -/
def renameIn (text : String) (afterWords : Nat) (newName : String) : String :=
  let toks := tokenize (bytesOf text)
  match toks[afterWords]? with
  | some tok => spliceToken text tok ("\"" ++ String.intercalate "\"\"" (newName.splitOn "\"") ++ "\"")
  | none => text

/-- The position of the table's name in an index definition: after ON. -/
def indexTableToken (text : String) : Option Nat :=
  let toks := tokenize (bytesOf text)
  (toks.findIdx? (·.isKeyword "ON")).map (· + 1)

/-- Fails unless the table may be altered. -/
def alterable (db : Database) (name : String) : Except SqlError Table :=
  match db.table? name with
  | some t =>
    if isReservedName t.name then .error (.general ("table " ++ t.name ++ " may not be altered"))
    else .ok t
  | none =>
    match db.view? name with
    | some v => .error (.general ("view " ++ v.name ++ " may not be altered"))
    | none => .error (.general ("no such table: " ++ name))

/-- ALTER TABLE ... RENAME TO. -/
def renameTable (db : Database) (name newName : String) : Except SqlError Database := do
  let t ← alterable db name
  if db.hasObject newName && !sameName newName t.name then
    throw (.general ("there is already another table or index with this name: " ++ newName))
  checkName newName
  let rename (n : String) : String := if sameName n t.name then newName else n
  let schema := db.schema.map fun e =>
    if sameName e.name t.name && e.kind == .table then
      { e with name := newName, table := newName, sql := e.sql.map (renameIn · 2 newName) }
    else if sameName e.table t.name then
      let sql := match e.kind, e.sql with
        | .index, some s =>
          match indexTableToken s with
          | some k => some (renameIn s k newName)
          | none => some s
        | _, s => s
      let autoName := "sqlite_autoindex_" ++ t.name ++ "_"
      let entryName :=
        if e.kind == .index && e.name.startsWith autoName then
          "sqlite_autoindex_" ++ newName ++ "_" ++ String.ofList (e.name.toList.drop autoName.length)
        else e.name
      { e with name := entryName, table := newName, sql }
    else e
  let tables := db.tables.map fun u =>
    let u := if sameName u.name t.name then { u with name := newName } else u
    { u with foreignKeys := u.foreignKeys.map fun fk => { fk with parent := rename fk.parent } }
  let indexes := db.indexes.map fun ix =>
    if sameName ix.table t.name then
      let autoName := "sqlite_autoindex_" ++ t.name ++ "_"
      { ix with table := newName,
                name := if ix.name.startsWith autoName then
                  "sqlite_autoindex_" ++ newName ++ "_" ++ String.ofList (ix.name.toList.drop autoName.length)
                  else ix.name }
    else ix
  let triggers := db.triggers.map fun tr => { tr with table := rename tr.table }
  let db := { db with schema, tables, indexes, triggers, schemaVersion := db.schemaVersion + 1 }
  match db.table? "sqlite_sequence" with
  | some s =>
    pure (db.setTable { s with rows := s.rows.map fun (r, vs) =>
      match (vs[0]? : Option SqlValue) with
      | some (.text b) => if sameName (lenientString b) t.name then (r, vs.set! 0 (.ofString newName)) else (r, vs)
      | _ => (r, vs) })
  | none => pure db

/-- ALTER TABLE ... ADD COLUMN. -/
def addColumn (db : Database) (name : String) (c : ColumnDef) (text : String) : Except SqlError Database := do
  let t ← alterable db name
  if t.columns.any (fun x => sameName x.name c.name) then
    throw (.general ("duplicate column name: " ++ c.name))
  if c.primaryKey.isSome then throw (.general "Cannot add a PRIMARY KEY column")
  if !c.unique.isEmpty then throw (.general "Cannot add a UNIQUE column")
  let col ← columnOf t.name t.strict c
  let (dflt, db) ← match c.default with
    | some (e, _) => db.evalConstant #[] e
    | none => pure (SqlValue.null, db)
  match c.generated with
  | none =>
    if !c.references.isEmpty && db.foreignKeysOn && !dflt.isNull && !t.rows.isEmpty then
      throw (.general "Cannot add a REFERENCES column with non-NULL default value")
    if c.notNull.isSome && dflt.isNull && !t.rows.isEmpty then
      throw (.general "Cannot add a NOT NULL column with default value NULL")
  | some g =>
    if g.stored && !t.rows.isEmpty then throw (.general "cannot add a STORED column")
  let value := dflt.stored col.affinity
  let t' := { t with columns := t.columns.push col,
                     rows := t.rows.map fun (r, vs) => (r, vs.push value),
                     checks := t.checks ++ c.checks,
                     foreignKeys := t.foreignKeys ++ c.references }
  db.checkGenerated t'
  -- a generated column is computed for the rows already stored
  let gens ← db.generators t'
  let mut rows := #[]
  for (r, vs) in t'.rows do
    let (vs, _) ← db.generate t' gens vs
    rows := rows.push (r, vs)
  let t' := { t' with rows }
  -- existing rows must pass the new column's NOT NULL and CHECK constraints
  if c.generated.isSome && c.notNull.isSome && t'.rows.any (fun (_, vs) => (vs.back?.getD .null).isNull) then
    throw (.general "NOT NULL constraint failed")
  if !c.checks.isEmpty && !t.rows.isEmpty then
    let level := Resolve.tableLevel t' t'.name
    let terms ← Resolve.resolveOver db (some level) [] (c.checks.map (·.e))
    for (rowid, vs) in t'.rows do
      for (term, _) in terms do
        let (v, _) ← db.runEval #[] (evalTerm 100000 [({ row := #[.integer rowid] ++ vs } : Scope)] term)
        if v.truth? == some false then throw (.general "CHECK constraint failed")
  let schema := db.schema.map fun e =>
    if sameName e.name t.name && e.kind == .table then
      { e with sql := e.sql.map fun s =>
        let bs := bytesOf s
        lenientString (bs.take t.addColumnAt ++ bytesOf (", " ++ text) ++ bs.drop t.addColumnAt) }
    else e
  let t' := { t' with addColumnAt := t.addColumnAt + 2 + (bytesOf text).length }
  pure { (db.setTable t') with schema, schemaVersion := db.schemaVersion + 1 }

/-- ALTER TABLE ... RENAME COLUMN. -/
def renameColumn (db : Database) (name old new : String) (quoted : Bool) : Except SqlError Database := do
  let t ← alterable db name
  let i ← match t.columnIndex? old with
    | some i => pure i
    | none => throw (.general ("no such column: \"" ++ old ++ "\""))
  if t.columns.any (fun x => sameName x.name new) then
    throw (.general ("duplicate column name: " ++ new))
  let cols := t.columns.set! i { t.columns[i]! with name := new }
  let inQuotes := "\"" ++ String.intercalate "\"\"" (new.splitOn "\"") ++ "\""
  -- a name written bare stays bare unless the new name was quoted; a blank
  -- keeps a quote that follows the name apart from it
  let rewrite (s : String) : String :=
    let bs := bytesOf s
    let toks := tokenize bs
    let hits := toks.toList.filter fun tok => match tok.kind with
      | .ident n _ => sameName n (t.columns[i]!).name
      | _ => false
    hits.reverse.foldl (fun acc tok =>
      let bare := !quoted && isIdByte (bs.getD tok.start 0)
      let text := if bare then new else if bs.getD tok.stop 0 == 0x22 then inQuotes ++ " " else inQuotes
      spliceToken acc tok text) s
  let schema := db.schema.map fun e =>
    if sameName e.table t.name && (e.kind == .table || e.kind == .index) then
      { e with sql := e.sql.map rewrite }
    else e
  pure { (db.setTable { t with columns := cols }) with schema, schemaVersion := db.schemaVersion + 1 }

/-- The text of a table's definition without the definition of one of its
columns, and the number of bytes taken out. The definitions are the first
items of the list in parentheses; a column before the last goes up to the
next one, and the last goes from the comma before it to the end of the
column definitions at `columnsEnd`. -/
def withoutColumn (sql : String) (i count columnsEnd : Nat) : String × Nat :=
  let bs := bytesOf sql
  let toks := tokenize bs
  -- the start of each item of the list at depth one
  let (_, starts, _) := toks.foldl (fun (depth, starts, next) tok =>
    if tok.isPunct "(" then (depth + 1, starts, depth == 0)
    else if tok.isPunct ")" then (depth - 1, starts, false)
    else if depth == 1 && tok.isPunct "," then (depth, starts, true)
    else if next && depth == 1 then (depth, starts.push tok.start, false)
    else (depth, starts, next)) ((0 : Nat), (#[] : Array Nat), false)
  match starts[i]? with
  | none => (sql, 0)
  | some start =>
    if i + 1 < count then
      let stop := starts.getD (i + 1) start
      (lenientString (bs.take start ++ bs.drop stop), stop - start)
    else
      let comma := ((bs.take start).reverse.takeWhile (· != 0x2c)).length
      let cut := start - comma - 1
      (lenientString (bs.take cut ++ bs.drop columnsEnd), columnsEnd - cut)

/-- ALTER TABLE ... DROP COLUMN. -/
def dropColumn (db : Database) (name column : String) : Except SqlError Database := do
  let t ← alterable db name
  let i ← match t.columnIndex? column with
    | some i => pure i
    | none => throw (.general ("no such column: \"" ++ column ++ "\""))
  let c := t.columns[i]!
  if c.keyPosition > 0 || t.rowidColumn == some i then
    throw (.general ("cannot drop PRIMARY KEY column: \"" ++ c.name ++ "\""))
  if (db.indexesOf t.name).any (fun ix => ix.origin == .unique && ix.keys.any (·.column == some i)) then
    throw (.general ("cannot drop UNIQUE column: \"" ++ c.name ++ "\""))
  if t.columns.size ≤ 1 then throw (.general ("cannot drop column \"" ++ c.name ++ "\": no other columns exist"))
  let keep (j : Nat) : Bool := j != i
  let cols := ((List.range t.columns.size).filter keep).toArray.map (t.columns[·]!)
  let shift (j : Nat) : Nat := if j > i then j - 1 else j
  let entry := db.schema.find? fun e => e.kind == .table && sameName e.name t.name
  let (sql, removed) := match entry.bind (·.sql) with
    | some text => withoutColumn text i t.columns.size t.addColumnAt
    | none => ("", 0)
  let t' := { t with columns := cols,
                     rows := t.rows.map fun (r, vs) => (r, ((List.range vs.size).filter keep).toArray.map (vs[·]!)),
                     rowidColumn := t.rowidColumn.map shift, addColumnAt := t.addColumnAt - removed }
  let schema := db.schema.map fun e =>
    if e.kind == .table && sameName e.name t.name && removed > 0 then { e with sql := some sql } else e
  let indexes := db.indexes.map fun ix =>
    if sameName ix.table t.name then { ix with keys := ix.keys.map fun k => { k with column := k.column.map shift } }
    else ix
  let db' := { (db.setTable t') with indexes, schema, schemaVersion := db.schemaVersion + 1 }
  -- every object with a text must still read: the table's own constraints
  -- and generated columns, the indexes on it, and the views
  let noColumn := SqlError.general ("no such column: " ++ c.name)
  for e in db.schema do
    let failure : Option SqlError :=
      if e.sql.isNone || isReservedName e.name then none
      else match e.kind with
        | .table =>
          if !sameName e.name t.name then none
          else match Resolve.resolveOver db' (some (Resolve.tableLevel t' t'.name)) [] (t'.checks.map (·.e)),
              db'.checkGenerated t' with
            | .error err, _ | .ok _, .error err => some err
            | .ok _, .ok _ => none
        | .index =>
          match (db.indexesOf t.name).find? (sameName ·.name e.name) with
          | some ix =>
            if ix.keys.any (fun k => k.column == some i || (k.column.isNone && Expr.mentions [c.name] 200 k.e))
            then some noColumn else none
          | none => none
        | .view =>
          match db'.view? e.name with
          | some v =>
            match Resolve.resolveQuery db' v.query with
            | .error err => some err
            | .ok _ => none
          | none => none
        | _ => none
    if let some err := failure then
      throw (.general ("error in " ++ e.kind.word ++ " " ++ e.name ++ " after drop column: " ++ err.message))
  pure db'

end Database

end ReportExport.Sql
