import ReportExport.Sql.Collation
import ReportExport.Sql.Syntax

/-!
# The catalog and the stored rows

A database holds tables, indexes, views and triggers. Each of them has a row
in the schema table, which lists them in the order they were made (by rowid),
with the page its data starts on and the text of its definition. Pages are
numbered from one, the schema table's own; a new table or index takes a page
freed by a dropped one (the lowest first) or the next unused page.

A table keeps its columns with their affinities and collations, its
constraints, and its rows in rowid order; an `INTEGER PRIMARY KEY` column is
the rowid itself. PRIMARY KEY (when not the rowid) and UNIQUE constraints
are indexes of their own, named after the table.

Names of schema objects and columns are matched without regard to ASCII case.
-/

namespace ReportExport.Sql

open Text

/-- An error of the engine: the result code and the message. -/
structure SqlError where
  code : Nat
  message : String
  /-- the action of the RAISE that made the error, if one did -/
  raised : Option Resolution := none
  deriving Repr, Inhabited

namespace SqlError

/-- The error's text as the database driver shows it. -/
def render (e : SqlError) : String :=
  "(code: " ++ toString e.code ++ ") " ++ e.message

/-- A generic error (code 1). -/
def general (message : String) : SqlError := { code := 1, message }

/-- A constraint failure (code 19 and the extended code of the constraint). -/
def constraint (extended : Nat) (message : String) : SqlError := { code := extended, message }

end SqlError

/-- Names compare equal when they differ only in the case of ASCII letters. -/
def sameName (a b : String) : Bool :=
  (bytesOf a).map lowerByte == (bytesOf b).map lowerByte

/-- A column of a table. -/
structure Column where
  name : String
  /-- the declared type as written -/
  declared : String := ""
  affinity : Affinity := .blob
  collation : Collation := .binary
  /-- NOT NULL, with its conflict resolution -/
  notNull : Option (Option Resolution) := none
  /-- the default and the text it was written as -/
  default : Option (Expr × String) := none
  /-- the position of the column in the primary key, from one; zero when not in it -/
  keyPosition : Nat := 0
  generated : Option Generated := none
  deriving Inhabited

/-- A key column of an index: a column of the table or an expression, with
its collation and direction. -/
structure KeyPart where
  column : Option Nat
  e : Expr
  collation : Collation := .binary
  descending : Bool := false
  deriving Inhabited

/-- Where an index comes from. -/
inductive IndexOrigin where
  | created | unique | primaryKey
  deriving Repr, DecidableEq, Inhabited

/-- An index over a table. -/
structure Index where
  name : String
  table : String
  keys : List KeyPart
  unique : Bool
  origin : IndexOrigin := .created
  resolution : Option Resolution := none
  filter : Option Expr := none
  deriving Inhabited

/-- A stored row: the rowid and one value per column. -/
abbrev StoredRow := Int × Array SqlValue

/-- A table. -/
structure Table where
  name : String
  columns : Array Column
  /-- the position of the column that is the rowid, if any -/
  rowidColumn : Option Nat := none
  autoincrement : Bool := false
  withoutRowid : Bool := false
  strict : Bool := false
  /-- the resolution of a rowid primary key's conflicts -/
  keyResolution : Option Resolution := none
  checks : List CheckConstraint := []
  foreignKeys : List ForeignKey := []
  /-- rows in rowid order -/
  rows : Array StoredRow := #[]
  /-- where a column added later goes into the definition's text -/
  addColumnAt : Nat := 0
  deriving Inhabited

/-- A view: its column names when given, and its query. -/
structure View where
  name : String
  columns : Option (List String)
  query : Query
  deriving Inhabited

/-- A trigger. -/
structure Trigger where
  name : String
  table : String
  time : TriggerTime
  event : TriggerEvent
  condition : Option Expr
  body : List Statement
  deriving Inhabited

/-- A row of the schema table. -/
structure SchemaEntry where
  rowid : Int
  kind : ObjectKind
  name : String
  table : String
  rootpage : Nat
  sql : Option String
  deriving Inhabited

/-- A database: its schema objects, the schema table, the pages in use, and
what the connection counts: the rows changed by the last statement and in
all, the last inserted rowid, and the state of the random generator. -/
structure Database where
  tables : List Table := []
  indexes : List Index := []
  views : List View := []
  triggers : List Trigger := []
  schema : Array SchemaEntry := #[]
  pageCount : Nat := 1
  freePages : List Nat := []
  changes : Nat := 0
  totalChanges : Nat := 0
  lastRowid : Int := 0
  foreignKeysOn : Bool := true
  userVersion : Int := 0
  schemaVersion : Nat := 0
  random : Nat := 0x2545f4914f6cdd1d
  deriving Inhabited

namespace Table

/-- The position of a column. -/
def columnIndex? (t : Table) (name : String) : Option Nat :=
  t.columns.findIdx? (fun c => sameName c.name name)

/-- The column names. -/
def columnNames (t : Table) : List String := t.columns.toList.map (·.name)

/-- The largest rowid in use, or zero. -/
def maxRowid (t : Table) : Int :=
  match t.rows.back? with
  | some (r, _) => r
  | none => 0

/-- The row of a rowid. -/
def row? (t : Table) (rowid : Int) : Option (Array SqlValue) :=
  (t.rows.find? (·.1 == rowid)).map (·.2)

/-- Puts a row in rowid order, replacing a row of the same rowid. -/
def putRow (t : Table) (rowid : Int) (values : Array SqlValue) : Table :=
  match t.rows.back? with
  | some (last, _) =>
    if last < rowid then { t with rows := t.rows.push (rowid, values) }
    else
      let kept := t.rows.filter (·.1 != rowid)
      let before := kept.filter (·.1 < rowid)
      let after := kept.filter (·.1 > rowid)
      { t with rows := before.push (rowid, values) ++ after }
  | none => { t with rows := #[(rowid, values)] }

/-- Removes the row of a rowid. -/
def removeRow (t : Table) (rowid : Int) : Table :=
  { t with rows := t.rows.filter (·.1 != rowid) }

end Table

namespace Database

/-- The table of a name. -/
def table? (db : Database) (name : String) : Option Table :=
  db.tables.find? (fun t => sameName t.name name)

/-- The index of a name. -/
def index? (db : Database) (name : String) : Option Index :=
  db.indexes.find? (fun i => sameName i.name name)

/-- The view of a name. -/
def view? (db : Database) (name : String) : Option View :=
  db.views.find? (fun v => sameName v.name name)

/-- The trigger of a name. -/
def trigger? (db : Database) (name : String) : Option Trigger :=
  db.triggers.find? (fun v => sameName v.name name)

/-- The indexes of a table, in the order they were made. -/
def indexesOf (db : Database) (table : String) : List Index :=
  db.indexes.filter (fun i => sameName i.table table)

/-- Compares two rows by the columns of an index key, each under its
collation, the order reversed where the key descends. -/
def compareByKeys : List KeyPart → Array SqlValue → Array SqlValue → Ordering
  | [], _, _ => .eq
  | k :: ks, a, b =>
    let col := k.column.getD 0
    let o := (a.getD col .null).compareWith k.collation (b.getD col .null)
    let o := if k.descending then o.swap else o
    if o == .eq then compareByKeys ks a b else o

/-- The rows of a table in the order a scan visits them: by rowid, or for a
table without rowids by its primary key, which is how such a table is kept. -/
def scanRows (db : Database) (t : Table) : Array StoredRow :=
  if t.withoutRowid then
    match (db.indexesOf t.name).find? (·.origin == .primaryKey) with
    | some ix => (t.rows.toList.mergeSort fun x y => compareByKeys ix.keys x.2 y.2 != .gt).toArray
    | none => t.rows
  else t.rows

/-- Replaces a table by name. -/
def setTable (db : Database) (t : Table) : Database :=
  { db with tables := db.tables.map (fun u => if sameName u.name t.name then t else u) }

/-- The schema entry of an object. -/
def entry? (db : Database) (name : String) : Option SchemaEntry :=
  db.schema.find? (fun e => sameName e.name name)

/-- Takes a page for a new table or index: the lowest freed page, else the
next unused one. -/
def allocatePage (db : Database) : Database × Nat :=
  match db.freePages with
  | p :: rest => ({ db with freePages := rest }, p)
  | [] => ({ db with pageCount := db.pageCount + 1 }, db.pageCount + 1)

/-- Frees a page. -/
def freePage (db : Database) (p : Nat) : Database :=
  if p == 0 then db
  else
    let rec insert : List Nat → List Nat
      | [] => [p]
      | q :: qs => if p < q then p :: q :: qs else q :: insert qs
    { db with freePages := insert db.freePages }

/-- Adds a row to the schema table, after the last. -/
def addEntry (db : Database) (kind : ObjectKind) (name table : String) (rootpage : Nat)
    (sql : Option String) : Database :=
  let rowid := match db.schema.back? with
    | some e => e.rowid + 1
    | none => 1
  { db with schema := db.schema.push { rowid, kind, name, table, rootpage, sql },
            schemaVersion := db.schemaVersion + 1 }

/-- Removes an object's row from the schema table and frees its page. -/
def removeEntry (db : Database) (name : String) : Database :=
  match db.entry? name with
  | some e =>
    let db := db.freePage e.rootpage
    { db with schema := db.schema.filter (fun x => !sameName x.name name),
              schemaVersion := db.schemaVersion + 1 }
  | none => db

/-- Whether an object of any kind has the name. -/
def hasObject (db : Database) (name : String) : Bool :=
  db.schema.any (fun e => sameName e.name name)

/-- The next value of the random generator (a 64-bit xorshift). -/
def nextRandom (db : Database) : Database × Nat :=
  let m : Nat := 18446744073709551616
  let x := if db.random == 0 then 0x2545f4914f6cdd1d else db.random
  let x := (x ^^^ (x <<< 13)) % m
  let x := x ^^^ (x >>> 7)
  let x := (x ^^^ (x <<< 17)) % m
  ({ db with random := x }, x)

end Database

end ReportExport.Sql
