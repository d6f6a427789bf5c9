import ReportExport.Sql.Define

/-!
# Changing rows

INSERT, UPDATE and DELETE work row by row, in rowid order for UPDATE and
DELETE. Each new or changed row is given its columns' affinities and then
checked, in this order: NOT NULL on each column, the CHECK constraints in
the order they were written, the rowid, then each UNIQUE or PRIMARY KEY
index, the newest first. On UPDATE only constraints that read a changed
column are checked.

A constraint that fails resolves as the statement's OR clause says, else as
the constraint's ON CONFLICT says, else ABORT: ABORT undoes the statement,
FAIL keeps the rows changed before, ROLLBACK also ends the transaction,
IGNORE skips the row, and REPLACE deletes the rows in the way (for NOT NULL
it writes the column's default; for CHECK it is ABORT). An upsert clause
turns a uniqueness conflict into DO NOTHING or DO UPDATE of the existing row.

A row is written with a new rowid one past the largest in use (or past the
AUTOINCREMENT mark, which `sqlite_sequence` keeps). Deleting a parent row
applies the ON DELETE action of the foreign keys that refer to it; at the
end of the statement every row it wrote, and every row referring to a parent
it changed, must find its parent.
-/

namespace ReportExport.Sql

open Text

/-- Why a statement that changes rows stopped: the error, the database to
keep (under FAIL the rows changed before the failing one stay; `none` keeps
the database the statement started from), and whether the whole transaction
is rolled back. -/
structure Stop where
  error : SqlError
  kept : Option Database := none
  rollback : Bool := false
  deriving Inhabited

/-- What a statement that changes rows did: the database after it, the rows
it changed, and its RETURNING columns and rows. -/
structure Changed where
  db : Database
  count : Nat
  columns : List String := []
  returned : Array (Array SqlValue) := #[]
  deriving Inhabited

/-- A statement that changes rows, as it runs. -/
abbrev Change := Except Stop

/-- Stops with an error, undoing the statement. -/
def stopWith {α : Type} (e : SqlError) : Change α := throw { error := e }

/-- Lifts an engine result. -/
def lift {α : Type} (r : Except SqlError α) : Change α :=
  match r with
  | .ok a => pure a
  | .error e => throw { error := e }

/-- The resolution of a conflict: the statement's, else the constraint's,
else ABORT. -/
def resolutionOf (statement constraint : Option Resolution) : Resolution :=
  (statement.orElse fun _ => constraint).getD .abort

/-- The stop a resolution makes of an error, given the database with the
rows changed so far. -/
def stopFor (r : Resolution) (e : SqlError) (sofar : Database) : Stop :=
  match r with
  | .fail => { error := e, kept := some sofar }
  | .rollback => { error := e, rollback := true }
  | _ => { error := e }

/-! ## Trigger events -/

/-- A change to a row that triggers fire on. -/
inductive RowChange where
  | insert
  | delete
  /-- an UPDATE, with the names of the columns its SET list writes -/
  | update (columns : List String)

/-- A change to one row of a table or view as its triggers see it: the
table or view, the columns of its rows and whether and where they hold a
rowid, when the triggers fire, the change, the row before and the row after
(each with its rowid), and the conflict resolution of the statement. -/
structure RowEvent where
  table : String
  columns : Array OutputColumn
  rowid : Option (Option Nat)
  time : TriggerTime
  change : RowChange
  old : Option (Int × Array SqlValue) := none
  new : Option (Int × Array SqlValue) := none
  resolution : Option Resolution := none

/-- Fires the triggers of a row event: the database after them, and whether
the change to the row goes on, which a RAISE(IGNORE) stops. -/
abbrev Fire := Database → RowEvent → Change (Database × Bool)

/-- Fires no trigger. -/
def noTriggers : Fire := fun db _ => pure (db, true)

/-- What a statement sees outside its own query levels: the levels and rows
of the OLD and NEW rows when it runs in a trigger's body. -/
structure TriggerFrame where
  levels : List Resolve.Level := []
  scopes : List Scope := []
  deriving Inhabited

/-- The event with its row before and its row after. -/
def RowEvent.withRows (ev : RowEvent) (old new : Option (Int × Array SqlValue)) : RowEvent := { ev with old, new }

/-- The event of a change to a row of a table, its rows still to be given. -/
def Table.rowEvent (t : Table) (time : TriggerTime) (change : RowChange) (stmt : Option Resolution) :
    RowEvent :=
  { table := t.name, columns := Resolve.tableColumns t, rowid := if t.withoutRowid then none else some t.rowidColumn,
    time, change, resolution := stmt }

/-- Whether a table or view has triggers. -/
def Database.hasTriggers (db : Database) (name : String) : Bool := db.triggers.any (sameName ·.table name)

/-- Whether a view has an INSTEAD OF trigger on a kind of change. -/
def Database.hasInsteadOf (db : Database) (name : String) (change : RowChange) : Bool :=
  db.triggers.any fun tr =>
    sameName tr.table name && tr.time == .insteadOf &&
      match tr.event, change with
      | .insert, .insert | .delete, .delete | .update _, .update _ => true
      | _, _ => false

namespace Database

/-- The table a statement changes. -/
def targetTable (db : Database) (name : String) : Except SqlError Table :=
  if Resolve.isSchemaName name then .error (.general ("table " ++ name ++ " may not be modified"))
  else match db.table? name with
    | some t => .ok t
    | none =>
      match db.view? name with
      | some v => .error (.general ("cannot modify " ++ v.name ++ " because it is a view"))
      | none => .error (.general ("no such table: " ++ name))

/-- The table a statement changes; inside a trigger's body a missing table is
named with its schema. -/
def targetIn (db : Database) (frame : TriggerFrame) (name : String) : Except SqlError Table :=
  match db.targetTable name with
  | .error e =>
    if !frame.levels.isEmpty && e.message == "no such table: " ++ name then
      .error (.general ("no such table: main." ++ name))
    else .error e
  | ok => ok

/-- The current state of a table. -/
def current (db : Database) (t : Table) : Table := (db.table? t.name).getD t

/-- The AUTOINCREMENT mark of a table. -/
def sequenceOf (db : Database) (name : String) : Int :=
  match db.table? "sqlite_sequence" with
  | some s =>
    match s.rows.find? (fun (_, vs) => match (vs[0]? : Option SqlValue) with
        | some (.text b) => sameName (lenientString b) name
        | _ => false) with
    | some (_, vs) => ((vs[1]? : Option SqlValue).getD SqlValue.null).intValue
    | none => 0
  | none => 0

/-- Raises a table's AUTOINCREMENT mark to a rowid. -/
def markSequence (db : Database) (name : String) (rowid : Int) : Database :=
  match db.table? "sqlite_sequence" with
  | some s =>
    let isRow (vs : Array SqlValue) : Bool := match (vs[0]? : Option SqlValue) with
      | some (.text b) => sameName (lenientString b) name
      | _ => false
    match s.rows.find? (fun (_, vs) => isRow vs) with
    | some (r, vs) =>
      if ((vs[1]? : Option SqlValue).getD SqlValue.null).intValue < rowid then
        db.setTable (s.putRow r #[.ofString name, .integer rowid])
      else db
    | none => db.setTable (s.putRow (s.maxRowid + 1) #[.ofString name, .integer rowid])
  | none => db

/-- A rowid not in use drawn at random, from one to 2^62, at most `tries`
times. -/
def randomRowid (db : Database) (t : Table) : Nat → Except SqlError (Int × Database)
  | 0 => .error { code := 13, message := "database or disk is full" }
  | tries + 1 =>
    let (db, x) := db.nextRandom
    let r : Int := (x % 4611686018427387904 : Nat) + 1
    if (t.row? r).isSome then randomRowid db t tries else .ok (r, db)

/-- The rowid a new row gets: one past the largest in use, and past the
AUTOINCREMENT mark. Past the largest rowid there is, a table without
AUTOINCREMENT tries rowids at random. -/
def newRowid (db : Database) (t : Table) : Except SqlError (Int × Database) :=
  let base := if t.autoincrement then max t.maxRowid (db.sequenceOf t.name) else t.maxRowid
  if base ≥ maxInteger then
    if t.autoincrement then .error { code := 13, message := "database or disk is full" }
    else db.randomRowid t 100
  else .ok (base + 1, db)

/-- The parent key columns of a foreign key: those named, else the parent's
primary key. -/
def parentColumns (parent : Table) (fk : ForeignKey) (db : Database) : List (Option Nat) :=
  if !fk.parentColumns.isEmpty then fk.parentColumns.map parent.columnIndex?
  else match parent.rowidColumn with
    | some i => [some i]
    | none =>
      match (db.indexesOf parent.name).find? (·.origin == .primaryKey) with
      | some ix => ix.keys.map (·.column)
      | none => [none]

/-- The values of some columns of a row (`none` for the rowid). -/
def columnValues (rowid : Int) (vals : Array SqlValue) (cols : List (Option Nat)) : List SqlValue :=
  cols.map fun c => match c with
    | some i => vals[i]?.getD .null
    | none => .integer rowid

/-- Whether a row of a child table finds its parent row through a foreign key. -/
def findsParent (db : Database) (child : Table) (fk : ForeignKey) (vals : Array SqlValue) : Bool :=
  let childCols := fk.columns.map child.columnIndex?
  let childVals := childCols.map fun c => (c.bind (vals[·]?)).getD .null
  if childVals.any (·.isNull) then true
  else match db.table? fk.parent with
    | none => false
    | some parent =>
      let pcols := db.parentColumns parent fk
      let affinities := pcols.map fun c => match c with
        | some i => (parent.columns[i]?.map (·.affinity)).getD .blob
        | none => .integer
      let colls := pcols.map fun c => match c with
        | some i => (parent.columns[i]?.map (·.collation)).getD .binary
        | none => .binary
      let wanted := (childVals.zip affinities).map fun (v, a) => v.withAffinity a
      parent.rows.any fun (r, pv) =>
        let found := columnValues r pv pcols
        found.length == wanted.length &&
          ((found.zip wanted).zip colls).all fun ((x, y), c) => x.compareWith c y == .eq

/-- Checks the foreign keys of the rows a statement wrote, and of every row
referring to a table whose rows it deleted or whose keys it changed. -/
def checkForeignKeys (db : Database) (written : List (String × Int)) (parents : List String) :
    Except SqlError Unit := do
  if !db.foreignKeysOn then return ()
  for child in db.tables do
    if !child.foreignKeys.isEmpty then
      for fk in child.foreignKeys do
        let all := parents.any (sameName · fk.parent)
        for (r, vals) in child.rows do
          if all || written.any (fun (n, w) => w == r && sameName n child.name) then
            if !db.findsParent child fk vals then
              throw (.constraint 787 "FOREIGN KEY constraint failed")

/-- Whether a row of a child table refers to a parent row's key. -/
def refersTo (child : Table) (fk : ForeignKey) (vals : Array SqlValue) (key : List SqlValue)
    (affinities : List Affinity) : Bool :=
  let childVals := fk.columns.map fun c => ((child.columnIndex? c).bind (vals[·]?)).getD .null
  !childVals.any (·.isNull) && childVals.length == key.length &&
    ((childVals.zip key).zip affinities).all fun ((c, k), a) => (c.withAffinity a).compare k == .eq

/-- Applies the ON DELETE actions of the foreign keys referring to a deleted
row of a parent table. -/
def onDelete (db : Database) (params : Array SqlValue) (parent : Table) (rowid : Int) (vals : Array SqlValue) :
    Nat → Except SqlError Database
  | 0 => .ok db
  | fuel + 1 => do
    if !db.foreignKeysOn then return db
    let mut db := db
    for child0 in db.tables do
      for fk in child0.foreignKeys do
        if sameName fk.parent parent.name then
          let child := (db.table? child0.name).getD child0
          let pcols := db.parentColumns parent fk
          let key := columnValues rowid vals pcols
          let affinities := pcols.map fun c => match c with
            | some i => (parent.columns[i]?.map (·.affinity)).getD .blob
            | none => .integer
          let hits := child.rows.filter fun (_, cv) => refersTo child fk cv key affinities
          if !hits.isEmpty then
            match fk.onDelete with
            | .cascade =>
              for (r, cv) in hits do
                let c := (db.table? child.name).getD child
                db := db.setTable (c.removeRow r)
                db ← onDelete db params c r cv fuel
            | .setNull | .setDefault =>
              let positions := fk.columns.filterMap child.columnIndex?
              let mut c := child
              for (r, cv) in hits do
                let mut nv := cv
                for p in positions do
                  let v ← if fk.onDelete == .setNull then pure SqlValue.null
                    else match (c.columns[p]!).default with
                      | some (e, _) => do
                        let (v, _) ← db.evalConstant params e
                        pure (v.stored (c.columns[p]!).affinity)
                      | none => pure SqlValue.null
                  nv := nv.set! p v
                c := c.putRow r nv
              db := db.setTable c
            | .restrict => throw (.constraint 1811 "FOREIGN KEY constraint failed")
            | .noAction => pure ()
    return db

/-! ## Checking a row -/

/-- The outcome of checking a new row: skipped, or kept with its values and
the database with the rows in its way removed; or a conflict with the rowid
of the existing row, for an upsert. -/
inductive Checked where
  | skip
  | keep (vals : Array SqlValue) (db : Database)
  | conflict (ix : Option Index) (existing : Int)

/-- Checks a new or changed row of a table against its constraints. `changed`
names the columns an UPDATE changes (with whether the rowid changes);
`self` is the row's own old rowid. -/
def checkRow (db : Database) (params : Array SqlValue) (stmt : Option Resolution) (t : Table)
    (rowid : Int) (vals : Array SqlValue) (changed : Option (List Nat × Bool)) (self : Option Int)
    (sofar : Database) (upsertIndexes : Option (List (Option Index))) : Change Checked := do
  let touched (i : Nat) : Bool := match changed with
    | some (cs, _) => cs.contains i
    | none => true
  let mut vals := vals
  let mut db := db
  -- NOT NULL
  for i in [0:t.columns.size] do
    let c := t.columns[i]!
    if let some r := c.notNull then
      if touched i && (vals[i]!).isNull && t.rowidColumn != some i then
        let err := SqlError.constraint 1299 ("NOT NULL constraint failed: " ++ t.name ++ "." ++ c.name)
        match resolutionOf stmt r with
        | .ignore => return .skip
        | .replace =>
          match c.default with
          | some (e, _) =>
            let (v, db') ← lift (db.evalConstant params e)
            db := db'
            if v.isNull then throw (stopFor .abort err sofar)
            vals := vals.set! i (v.stored c.affinity)
          | none => throw (stopFor .abort err sofar)
        | r => throw (stopFor r err sofar)
  -- CHECK
  let changedNames : Option (List String) := match changed with
    | some (cs, rowidChanged) =>
      some (cs.filterMap (fun i => (t.columns[i]? : Option Column).map (·.name)) ++
        (if rowidChanged then ["rowid", "oid", "_rowid_"] else []))
    | none => none
  let checks : List CheckConstraint := match changedNames with
    | some names => t.checks.filter fun (ck : CheckConstraint) => Expr.mentions names 200 ck.e
    | none => t.checks
  if !checks.isEmpty then
    let terms ← lift (Resolve.resolveOver db (some (Resolve.tableLevel t t.name)) [] (checks.map (·.e)))
    for (ck, (term, _)) in checks.zip terms do
      let (v, db') ← lift (db.runEval params (evalTerm 100000 [t.scopeOf rowid vals] term))
      db := db'
      if v.truth? == some false then
        let err := SqlError.constraint 275 ("CHECK constraint failed: " ++ ck.name)
        match resolutionOf stmt none with
        | .ignore => return .skip
        | .replace => throw (stopFor .abort err sofar)
        | r => throw (stopFor r err sofar)
  -- the rowid
  let rowidChecked := match changed with
    | some (_, rowidChanged) => rowidChanged
    | none => true
  let live := db.current t
  if rowidChecked && !t.withoutRowid then
    if (live.row? rowid).isSome && self != some rowid then
      let wanted := upsertIndexes.bind fun ixs => if ixs.any (·.isNone) then some () else none
      if wanted.isSome then return .conflict none rowid
      let colName := match t.rowidColumn with
        | some i => (t.columns[i]!).name
        | none => "rowid"
      let err := SqlError.constraint 1555 ("UNIQUE constraint failed: " ++ t.name ++ "." ++ colName)
      match resolutionOf stmt t.keyResolution with
      | .ignore => return .skip
      | .replace =>
        let old := (live.row? rowid).getD #[]
        db := db.setTable ((db.current t).removeRow rowid)
        db ← lift (db.onDelete params t rowid old 16)
      | r => throw (stopFor r err sofar)
  -- UNIQUE and PRIMARY KEY indexes, the newest first, REPLACE ones last
  let uniques := ((db.indexesOf t.name).filter (·.unique)).reverse
  let ordered := uniques.filter (fun ix => resolutionOf stmt ix.resolution != .replace) ++
    uniques.filter (fun ix => resolutionOf stmt ix.resolution == .replace)
  for ix in ordered do
    let relevant := match changed with
      | some (cs, rowidChanged) => ix.keys.any fun k => match k.column with
        | some i => cs.contains i
        | none => rowidChanged || !cs.isEmpty
      | none => true
    if relevant then
      let me := #[if t.withoutRowid then SqlValue.null else .integer rowid] ++ vals
      let key ← lift (db.keyValues t ix me)
      if !key.any (·.isNull) then
        let live := db.current t
        let mut hits : List (Int × Array SqlValue) := []
        for (r, vs) in live.rows do
          if self != some r && r != rowid then
            let k ← lift (db.keyValues t ix (#[.integer r] ++ vs))
            if keysCollide ix key k then hits := hits ++ [(r, vs)]
          else if self.isNone && r == rowid then
            pure ()
        if let (r, _) :: _ := hits then
          let wanted := upsertIndexes.bind fun ixs =>
            if ixs.any (fun x => x.isNone || x.any (sameName ·.name ix.name)) then some () else none
          if wanted.isSome then return .conflict (some ix) r
          let err := SqlError.constraint (if ix.origin == .primaryKey then 1555 else 2067)
            ("UNIQUE constraint failed: " ++ keyLabel t ix)
          match resolutionOf stmt ix.resolution with
          | .ignore => return .skip
          | .replace =>
            for (r, old) in hits do
              db := db.setTable ((db.current t).removeRow r)
              db ← lift (db.onDelete params t r old 16)
          | r => throw (stopFor r err sofar)
  return .keep vals db

/-- A row with values written into some of its columns (`none` for the
rowid), each given its column's affinity; and its rowid after. -/
def applyValues (t : Table) (rowid : Int) (vals : Array SqlValue) (assigned : List (Option Nat × SqlValue)) :
    Except SqlError (Int × Array SqlValue) := do
  let mut nv := vals
  let mut newRowid := rowid
  for (c, x) in assigned do
    match c with
    | some i => nv := nv.set! i (x.stored (t.columns[i]!).affinity)
    | none =>
      match x.withAffinity .integer with
      | .integer r => newRowid := r
      | _ => throw { code := 20, message := "datatype mismatch" }
  match t.rowidColumn with
  | some p =>
    match nv[p]? with
    | some (.integer r) => newRowid := r
    | some .null => newRowid := rowid
    | some _ => throw { code := 20, message := "datatype mismatch" }
    | none => pure ()
  | none => pure ()
  return (newRowid, nv)

/-- The new values of a row after SET: each assigned column evaluated on the
old row (inside the rows of `scopes`), given its column's affinity. The
queries of the SET list that run once keep their rows from row to row in
`once`. -/
def assign (db : Database) (params : Array SqlValue) (scopes : List Scope) (once : OnceRows) (t : Table)
    (targets : List (List (Option Nat) × Term)) (rowid : Int) (vals : Array SqlValue) :
    Except SqlError (Int × Array SqlValue × Database × OnceRows) := do
  let scope := t.scopeOf rowid vals
  let mut db := db
  let mut once := once
  let mut assigned : List (Option Nat × SqlValue) := []
  for (cols, term) in targets do
    let (v, db', once') ← db.runEvalOnce params once (evalTerm 100000 (scope :: scopes) term)
    db := db'
    once := once'
    assigned := assigned ++ cols.map fun c => (c, v)
  let (newRowid, nv) ← applyValues t rowid vals assigned
  return (newRowid, nv, db, once)

/-! ## The statements -/

/-- The target of each column of an INSERT's list: a column, or the rowid. -/
def insertTargets (t : Table) (columns : Option (List String)) : Except SqlError (List (Option Nat)) :=
  match columns with
  | some cs => cs.mapM fun c =>
    match t.columnIndex? c with
    | some i =>
      if (t.generatorAt i).isSome then
        .error (.general ("cannot INSERT into generated column \"" ++ (t.namesAt [i]).headD "" ++ "\""))
      else .ok (some i)
    | none =>
      if Resolve.isRowidName c && !t.withoutRowid then .ok none
      else .error (.general ("table " ++ t.name ++ " has no column named " ++ c))
  | none => .ok (t.givenColumns.map some)

/-- The rows of VALUES that do not all have the same number of terms. -/
def unevenValues (q : Query) : Bool :=
  match q with
  | .mk _ _ (.values rows) [] _ _ _ =>
    match rows with
    | r :: rest => rest.any (·.length != r.length)
    | [] => false
  | _ => false

/-- Evaluates RETURNING terms on a row. -/
def returnRow (db : Database) (params : Array SqlValue) (t : Table) (terms : List Term) (rowid : Int)
    (vals : Array SqlValue) : Except SqlError (Array SqlValue × Database) := do
  let (vs, db) ← db.runEval params (evalTerms 100000 [t.scopeOf rowid vals] terms)
  pure (vs.toArray, db)

/-- The columns an item of a SET list writes (`none` for the rowid); a
generated column cannot be written. -/
def assignmentTargets (t : Table) (a : Assignment) : Except SqlError (List (Option Nat)) :=
  a.columns.mapM fun c =>
    match t.columnIndex? c with
    | some i =>
      if (t.generatorAt i).isSome then
        .error (.general ("cannot UPDATE generated column \"" ++ (t.namesAt [i]).headD "" ++ "\""))
      else .ok (some i)
    | none =>
      if Resolve.isRowidName c && !t.withoutRowid then .ok none
      else .error (.general ("no such column: " ++ c))

/-- The columns each item of a SET list writes. -/
def setTargets (t : Table) (sets : List Assignment) : Except SqlError (List (List (Option Nat))) :=
  sets.mapM (assignmentTargets t)

/-- The resolved SET list of an UPDATE over levels (the table's first): for
each item its target columns and its term. A list of columns must be given
as many values as it names (a row of another size fails before anything
else); then each item's value is resolved before its columns are looked up,
item after item. -/
def resolveSets (db : Database) (t : Table) (chain : List Resolve.Level) (ctes : List Resolve.TableExprDef)
    (sets : List Assignment) : Except SqlError (List (List (Option Nat) × Term)) := do
  for a in sets do
    match a.columns, a.value with
    | [_], _ | _, .subquery _ => pure ()
    | cols, .row items =>
      if items.length != cols.length then
        throw (.general (toString cols.length ++ " columns assigned " ++ toString items.length ++ " values"))
    | cols, _ => throw (.general (toString cols.length ++ " columns assigned 1 values"))
  Resolve.resolveUsing db chain ctes fun cx => do
    let mut out := []
    for a in sets do
      let ts ← match a.columns with
        | [_] => do
          let r ← Resolve.expr 100000 cx a.value
          pure [r]
        | _ => Resolve.vector 100000 cx a.value
      let cols ← match assignmentTargets t a with
        | .ok cs => pure cs
        | .error e => throw e
      if ts.length != cols.length then
        Resolve.failWith (toString cols.length ++ " columns assigned " ++ toString ts.length ++ " values")
      out := out ++ (cols.zip ts).map fun (c, (term, _)) => ([c], term)
    return out

/-- The rows a source of INSERT gives, checked against the number of columns
they fill. -/
def insertRows (db : Database) (params : Array SqlValue) (frame : TriggerFrame) (ctes : Option (Bool × List TableExpr))
    (name : String) (width : Nat) (columns : Option (List String)) (source : InsertSource) :
    Change (Array (Array SqlValue) × Database) :=
  match source with
  | .defaults => pure (#[#[]], db)
  | .query q => do
    if unevenValues q then stopWith (.general "all VALUES must have the same number of terms")
    let r ← lift (Resolve.resolveQueryIn db frame.levels ctes q)
    match columns with
    | some cs =>
      if r.columns.size != cs.length then
        stopWith (.general (toString r.columns.size ++ " values for " ++ toString cs.length ++ " columns"))
    | none =>
      if r.columns.size != width then
        stopWith (.general ("table " ++ name ++ " has " ++ toString width ++ " columns but " ++
          toString r.columns.size ++ " values were supplied"))
    lift (db.runEval params (runPlan 100000 frame.scopes r.plan))

/-- The names of the columns a SET list writes. -/
def setNames (sets : List Assignment) : List String := sets.flatMap (·.columns)

/-- A row after BEFORE UPDATE triggers ran: the values SET gave, and the
columns it did not write read again from the row as the triggers left it. -/
def reloadRow (t : Table) (changed : List Nat) (nv now : Array SqlValue) : Array SqlValue :=
  (List.range t.columns.size).foldl (fun acc i =>
    if changed.contains i || t.rowidColumn == some i then acc else acc.set! i (now.getD i .null)) nv

/-- INSERT. Triggers fire through `fire`; `frame` holds the rows of a
trigger's body. -/
def insert (db : Database) (params : Array SqlValue) (frame : TriggerFrame) (fire : Fire)
    (ctes : Option (Bool × List TableExpr)) (stmt : Option Resolution) (table : String) (aliasName : Option String)
    (columns : Option (List String)) (source : InsertSource) (upserts : List Upsert) (returning : List ResultColumn) :
    Change Changed := do
  let t ← lift (db.targetIn frame table)
  let targets ← lift (insertTargets t columns)
  let level := Resolve.tableLevel t (aliasName.getD t.name)
  let (rows, db0) ← insertRows db params frame ctes t.name t.givenColumns.length columns source
  let gens ← lift (db.generators t)
  for u in upserts do
    if let .update sets _ := u.action then
      let _ ← lift (setTargets t sets)
  let (retNames, retTerms) ← if returning.isEmpty then pure ([], [])
    else lift (Resolve.resolveReturning db level returning)
  -- upsert targets: the index each names (none for a clause without target)
  let upsertIndexes ← upserts.mapM fun u =>
    match u.target with
    | none => pure (none : Option Index)
    | some (cols, _) => do
      let keys ← lift (cols.mapM (keyPartOf t))
      let isRowid := keys.length == 1 && ((keys.headD default).column == t.rowidColumn && t.rowidColumn.isSome)
      if isRowid then pure none
      else match (db.indexesOf t.name).find? (fun ix => ix.unique && ix.keys.length == keys.length &&
          keys.all (fun k => ix.keys.any (fun x => x.column == k.column))) with
        | some ix => pure (some ix)
        | none => stopWith (.general "ON CONFLICT clause does not match any PRIMARY KEY or UNIQUE constraint")
  let defaultRow := rows.size == 1 && source matches .defaults
  let triggered := db.hasTriggers t.name
  let mut db := db0
  let mut count := 0
  let mut returned : Array (Array SqlValue) := #[]
  let mut written : List (String × Int) := []
  for src in rows do
    let t := db.current t
    -- the full row: given values, else defaults
    let mut vals : Array SqlValue := #[]
    for j in [0:t.columns.size] do
      let c := t.columns[j]!
      let given := if defaultRow then none else (targets.idxOf? (some j)).bind (src[·]?)
      match given with
      | some v => vals := vals.push (v.stored c.affinity)
      | none =>
        match c.default with
        | some (e, _) =>
          let (v, db') ← lift (db.evalConstant params e)
          db := db'
          vals := vals.push (v.stored c.affinity)
        | none => vals := vals.push .null
    let explicitRowid : SqlValue := match t.rowidColumn with
      | some p => vals[p]!
      | none => if defaultRow then .null else ((targets.idxOf? none).bind (src[·]?)).getD .null
    let givenRowid ← match explicitRowid with
      | .null => pure none
      | v => match v.withAffinity .integer with
        | .integer r => pure (some r)
        | _ => stopWith { code := 20, message := "datatype mismatch" }
    -- BEFORE INSERT triggers see the rowid as -1 when it is still to be chosen
    if triggered then
      let before := givenRowid.getD (-1)
      let shown := match t.rowidColumn with
        | some p => vals.set! p (.integer before)
        | none => vals
      let (shown, db') ← lift (db.generate t gens shown)
      db := db'
      let (db', go) ← fire db ((t.rowEvent .before .insert stmt).withRows none (some (before, shown)))
      db := db'
      if !go then continue
    let t := db.current t
    let rowid ← match givenRowid with
      | some r => pure r
      | none => do
        let (r, db') ← lift (db.newRowid t)
        db := db'
        pure r
    if let some p := t.rowidColumn then vals := vals.set! p (.integer rowid)
    let (vals', db') ← lift (db.generate t gens vals)
    vals := vals'
    db := db'
    if t.strict then
      for j in [0:t.columns.size] do
        let c := t.columns[j]!
        let v := vals[j]!
        let ok := match c.affinity, v with
          | _, .null => true
          | .integer, .integer _ => true
          | .real, .real _ => true
          | .text, .text _ => true
          | .blob, _ => c.declared.toUpper == "ANY" || (match v with | .blob _ => true | _ => false)
          | _, _ => false
        -- a VIRTUAL column is not stored, so its type is not checked
        if !ok && !c.generated.any (!·.stored) then
          stopWith (.constraint 3091 ("cannot store " ++ v.typeName.toUpper ++ " value in " ++
            c.declared.toUpper ++ " column " ++ t.name ++ "." ++ c.name))
    let upsertArg := if upserts.isEmpty then none else some upsertIndexes
    match ← checkRow db params stmt t rowid vals none none db upsertArg with
    | .skip => pure ()
    | .keep kept db' =>
      db := db'
      let t := db.current t
      db := db.setTable (t.putRow rowid kept)
      if !t.withoutRowid then db := { db with lastRowid := rowid }
      if t.autoincrement then db := db.markSequence t.name rowid
      count := count + 1
      written := written ++ [(t.name, rowid)]
      if !retTerms.isEmpty then
        let (row, db') ← lift (returnRow db params t retTerms rowid kept)
        db := db'
        returned := returned.push row
      if triggered then
        let (db', _) ← fire db ((t.rowEvent .after .insert stmt).withRows none (some (rowid, kept)))
        db := db'
    | .conflict ix existing =>
      -- the first upsert clause that names the conflicting index, or has no target
      let chosen := (upserts.zip upsertIndexes).find? fun (_, target) =>
        match target, ix with
        | none, _ => true
        | some a, some b => sameName a.name b.name
        | some _, none => false
      match chosen with
      | some (u, _) =>
        match u.action with
        | .nothing => pure ()
        | .update sets filter =>
          let t := db.current t
          let old := (t.row? existing).getD #[]
          -- the existing row, and the row that was to be inserted as "excluded"
          let excluded : Resolve.Item :=
            { name := "excluded", columns := Resolve.tableColumns t, rowid := some t.rowidColumn,
              offset := t.columns.size + 1, qualifiedOnly := true }
          let upLevel : Resolve.Level := { level with items := level.items.push excluded }
          let chain := upLevel :: frame.levels
          let setTerms ← lift (resolveSets db t chain [] sets)
          let filterTerm ← match filter with
            | some f => do
              let ts ← lift (Resolve.resolveIn db chain [] [f])
              pure (ts.head?.map (·.1))
            | none => pure none
          let scope : Scope := { row := #[.integer existing] ++ old ++ #[.integer rowid] ++ vals }
          let passes ← match filterTerm with
            | some f => do
              let (v, db') ← lift (db.runEval params (evalTerm 100000 (scope :: frame.scopes) f))
              db := db'
              pure (v.truthOr false)
            | none => pure true
          if passes then
            let mut nv := old
            let mut newRowid := existing
            for (cols, term) in setTerms do
              let (v, db') ← lift (db.runEval params (evalTerm 100000 (scope :: frame.scopes) term))
              db := db'
              for c in cols do
                match c with
                | some i =>
                  nv := nv.set! i (v.stored (t.columns[i]!).affinity)
                  if t.rowidColumn == some i then
                    match v.withAffinity .integer with
                    | .integer r => newRowid := r
                    | _ => stopWith { code := 20, message := "datatype mismatch" }
                | none =>
                  match v.withAffinity .integer with
                  | .integer r => newRowid := r
                  | _ => stopWith { code := 20, message := "datatype mismatch" }
            let changedCols := (setTerms.flatMap (·.1)).filterMap id
            let change := RowChange.update (setNames sets)
            let (nv', db') ← lift (db.generate t gens nv)
            nv := nv'
            db := db'
            if triggered then
              let ev := (t.rowEvent .before change stmt).withRows (some (existing, old)) (some (newRowid, nv))
              let (db', go) ← fire db ev
              db := db'
              if !go then continue
              match (db.current t).row? existing with
              | some now =>
                let (nv', db') ← lift (db.generate t gens (reloadRow t changedCols nv now))
                nv := nv'
                db := db'
              | none => continue
            let cols := List.range t.columns.size
            match ← checkRow db params stmt t newRowid nv (some (cols, newRowid != existing)) (some existing) db
                none with
            | .skip => pure ()
            | .conflict _ _ => pure ()
            | .keep kept db' =>
              db := db'
              let t := db.current t
              let t := if newRowid != existing then t.removeRow existing else t
              db := db.setTable (t.putRow newRowid kept)
              count := count + 1
              written := written ++ [(t.name, newRowid)]
              if !retTerms.isEmpty then
                let (row, db') ← lift (returnRow db params t retTerms newRowid kept)
                db := db'
                returned := returned.push row
              if triggered then
                let ev := (t.rowEvent .after change stmt).withRows (some (existing, old)) (some (newRowid, kept))
                let (db', _) ← fire db ev
                db := db'
      | none => pure ()
  match db.checkForeignKeys written [] with
  | .ok () => pure ()
  | .error e => stopWith e
  return { db, count, columns := retNames, returned }

/-- UPDATE. Triggers fire through `fire`; `frame` holds the rows of a
trigger's body. -/
def update (db : Database) (params : Array SqlValue) (frame : TriggerFrame) (fire : Fire)
    (ctes : Option (Bool × List TableExpr)) (stmt : Option Resolution) (table : String) (aliasName : Option String)
    (sets : List Assignment) (source : Option FromClause) (filter : Option Expr) (returning : List ResultColumn) :
    Change Changed := do
  let t ← lift (db.targetIn frame table)
  let aliasName := aliasName.getD t.name
  let level := Resolve.tableLevel t aliasName
  let chain := level :: frame.levels
  let defs := match ctes with
    | some (r, ds) => Resolve.withDefs r ds
    | none => []
  -- the SET list, then WHERE, are resolved before the rest; with FROM, the
  -- query that joins the target to the FROM items resolves them
  let setTerms ← if source.isNone then lift (resolveSets db t chain defs sets) else pure []
  let targets ← lift (setTargets t sets)
  let filterTerm ← match source, filter with
    | none, some f => do
      let ts ← lift (Resolve.resolveIn db chain defs [f])
      pure (ts.head?.map (·.1))
    | _, _ => pure none
  let rowidChanged := targets.flatten.any (fun c => c.isNone || c == t.rowidColumn)
  let changedCols := t.changedWith rowidChanged (t.columns.size + 1) (targets.flatten.filterMap id)
  let triggered := db.hasTriggers t.name
  let change := RowChange.update (setNames sets)
  let mut db := db
  -- the rows to change with their new values, found before any changes
  let mut matched : Array (Int × Array SqlValue × Option (List (Option Nat × SqlValue))) := #[]
  match source with
  | none =>
    for (r, vals) in db.scanRows t do
      let keep ← match filterTerm with
        | some f => do
          let (v, db') ← lift (db.runEval params (evalTerm 100000 (t.scopeOf r vals :: frame.scopes) f))
          db := db'
          pure (v.truthOr false)
        | none => pure true
      if keep then matched := matched.push (r, vals, none)
  | some (.mk first constraint joins) =>
    -- the target joined with the FROM items gives each row to change and its new values
    let values : List Expr := sets.flatMap fun a =>
      match a.columns, a.value with
      | [_], e => [e]
      | _, .row items => items
      | _, e => [e]
    let columns := (ResultColumn.expr (.column none (some aliasName) "rowid" false) none "") ::
      values.map fun e => ResultColumn.expr e none ""
    let from_ : FromClause :=
      .mk (.table none t.name (some aliasName)) .none (.mk .inner false first constraint :: joins)
    let (recursive, withs) := ctes.getD (false, [])
    let q : Query := .mk recursive withs (.select false columns (some from_) filter [] none []) [] [] none none
    let r ← lift (Resolve.resolveQueryIn db frame.levels none q)
    let (rows, db') ← lift (db.runEval params (runPlan 100000 frame.scopes r.plan))
    db := db'
    for row in rows do
      let rowid := (row[0]?.getD SqlValue.null).intValue
      match t.row? rowid with
      | some vals =>
        if !matched.any (·.1 == rowid) then
          matched := matched.push (rowid, vals, some (targets.flatten.zip (row.toList.drop 1)))
      | none => pure ()
  let gens ← lift (db.generators t)
  let (retNames, retTerms) ← if returning.isEmpty then pure ([], [])
    else lift (Resolve.resolveReturning db level returning)
  let mut once : OnceRows := []
  let mut count := 0
  let mut returned : Array (Array SqlValue) := #[]
  let mut written : List (String × Int) := []
  let mut parents : List String := []
  for (r, old0, given) in matched do
    let live := db.current t
    if let some current := live.row? r then
      let old := if given.isSome || triggered then current else old0
      let (newRowid, nv, db') ← match given with
        | some assigned => do
          let (nr, nv) ← lift (applyValues live r old assigned)
          pure (nr, nv, db)
        | none => do
          let (nr, nv, db', once') ← lift (assign db params frame.scopes once live setTerms r old)
          once := once'
          pure (nr, nv, db')
      let (nv, db') ← lift (db'.generate live gens nv)
      db := db'
      let mut nv := nv
      if triggered then
        let ev := (live.rowEvent .before change stmt).withRows (some (r, old)) (some (newRowid, nv))
        let (db', go) ← fire db ev
        db := db'
        if !go then continue
        match (db.current t).row? r with
        | some now =>
          let (nv', db') ← lift (db.generate live gens (reloadRow live changedCols nv now))
          nv := nv'
          db := db'
        | none => continue
      let live := db.current t
      match ← checkRow db params stmt live newRowid nv (some (changedCols, rowidChanged && newRowid != r))
          (some r) db none with
      | .skip => pure ()
      | .conflict _ _ => pure ()
      | .keep kept db' =>
        db := db'
        let live := db.current t
        let live := if newRowid != r then live.removeRow r else live
        db := db.setTable (live.putRow newRowid kept)
        count := count + 1
        written := written ++ [(t.name, newRowid)]
        if db.foreignKeysOn && db.tables.any (fun c => c.foreignKeys.any (sameName ·.parent t.name)) then
          parents := parents ++ [t.name]
        if !retTerms.isEmpty then
          let (row, db') ← lift (returnRow db params live retTerms newRowid kept)
          db := db'
          returned := returned.push row
        if triggered then
          let ev := (live.rowEvent .after change stmt).withRows (some (r, old)) (some (newRowid, kept))
          let (db', _) ← fire db ev
          db := db'
  match db.checkForeignKeys written parents with
  | .ok () => pure ()
  | .error e => stopWith e
  return { db, count, columns := retNames, returned }

/-- DELETE. Triggers fire through `fire`; `frame` holds the rows of a
trigger's body; `stmt` is the conflict resolution the triggers inherit. -/
def delete (db : Database) (params : Array SqlValue) (frame : TriggerFrame) (fire : Fire)
    (ctes : Option (Bool × List TableExpr)) (stmt : Option Resolution) (table : String) (aliasName : Option String)
    (filter : Option Expr) (returning : List ResultColumn) : Change Changed := do
  let t ← lift (db.targetIn frame table)
  let level := Resolve.tableLevel t (aliasName.getD t.name)
  let defs := match ctes with
    | some (r, ds) => Resolve.withDefs r ds
    | none => []
  let filterTerm ← match filter with
    | some f => do
      let ts ← lift (Resolve.resolveIn db (level :: frame.levels) defs [f])
      pure (ts.head?.map (·.1))
    | none => pure none
  let (retNames, retTerms) ← if returning.isEmpty then pure ([], [])
    else lift (Resolve.resolveReturning db level returning)
  let triggered := db.hasTriggers t.name
  let mut db := db
  let mut matched : Array (Int × Array SqlValue) := #[]
  for (r, vals) in db.scanRows t do
    let keep ← match filterTerm with
      | some f => do
        let (v, db') ← lift (db.runEval params (evalTerm 100000 (t.scopeOf r vals :: frame.scopes) f))
        db := db'
        pure (v.truthOr false)
      | none => pure true
    if keep then matched := matched.push (r, vals)
  let mut count := 0
  let mut returned : Array (Array SqlValue) := #[]
  for (r, old0) in matched do
    let live := db.current t
    if let some current := live.row? r then
      let old := if triggered then current else old0
      if triggered then
        let (db', go) ← fire db ((live.rowEvent .before .delete stmt).withRows (some (r, old)) none)
        db := db'
        if !go then continue
        if ((db.current t).row? r).isNone then continue
      let live := db.current t
      if !retTerms.isEmpty then
        let (row, db') ← lift (returnRow db params live retTerms r old)
        db := db'
        returned := returned.push row
      db := db.setTable (live.removeRow r)
      db ← lift (db.onDelete params live r old 16)
      count := count + 1
      if triggered then
        let (db', _) ← fire db ((live.rowEvent .after .delete stmt).withRows (some (r, old)) none)
        db := db'
  let parents := if count > 0 then [t.name] else []
  match db.checkForeignKeys [] parents with
  | .ok () => pure ()
  | .error e => stopWith e
  return { db, count, columns := retNames, returned }

/-! ## Changing a view through its triggers -/

/-- The columns of a view as its rows give them. -/
def viewColumns (db : Database) (v : View) : Except SqlError (Array OutputColumn) := do
  let r ← Resolve.resolveQuery db (Resolve.tableQuery v.name)
  pure r.columns

/-- The event of a change to a row of a view, its rows still to be given. -/
def viewEvent (v : View) (columns : Array OutputColumn) (change : RowChange) (stmt : Option Resolution) :
    RowEvent :=
  { table := v.name, columns, rowid := none, time := .insteadOf, change, resolution := stmt }

/-- The rows of a view a WHERE keeps, read before any change. -/
def viewRows (db : Database) (params : Array SqlValue) (frame : TriggerFrame) (ctes : Option (Bool × List TableExpr))
    (v : View) (aliasName : Option String) (filter : Option Expr) : Change (Array (Array SqlValue) × Database) := do
  let q : Query := .mk false [] (.select false [.all] (some (.mk (.table none v.name aliasName) .none [])) filter [] none [])
    [] [] none none
  let r ← lift (Resolve.resolveQueryIn db frame.levels ctes q)
  lift (db.runEval params (runPlan 100000 frame.scopes r.plan))

/-- INSERT into a view: each row goes to the view's INSTEAD OF INSERT
triggers, and none is counted as changed. -/
def insertIntoView (db : Database) (params : Array SqlValue) (frame : TriggerFrame) (fire : Fire)
    (ctes : Option (Bool × List TableExpr)) (stmt : Option Resolution) (v : View) (columns : Option (List String))
    (source : InsertSource) : Change Changed := do
  let cols ← lift (viewColumns db v)
  let targets ← match columns with
    | some cs => cs.mapM fun c =>
      match cols.findIdx? (sameName ·.name c) with
      | some i => pure i
      | none => stopWith (.general ("table " ++ v.name ++ " has no column named " ++ c))
    | none => pure (List.range cols.size)
  let (rows, db0) ← insertRows db params frame ctes v.name cols.size columns source
  let mut db := db0
  for src in rows do
    let vals := (List.range cols.size).toArray.map fun j => ((targets.idxOf? j).bind (src[·]?)).getD .null
    let (db', _) ← fire db ((viewEvent v cols .insert stmt).withRows none (some (0, vals)))
    db := db'
  return { db, count := 0 }

/-- UPDATE of a view: each row the WHERE keeps, with its new values, goes to
the view's INSTEAD OF UPDATE triggers. -/
def updateView (db : Database) (params : Array SqlValue) (frame : TriggerFrame) (fire : Fire)
    (ctes : Option (Bool × List TableExpr)) (stmt : Option Resolution) (v : View) (aliasName : Option String)
    (sets : List Assignment) (filter : Option Expr) : Change Changed := do
  let cols ← lift (viewColumns db v)
  let item : Resolve.Item := { name := aliasName.getD v.name, columns := cols, rowid := none, offset := 0 }
  let chain := ({ items := #[item] } : Resolve.Level) :: frame.levels
  let defs := match ctes with
    | some (r, ds) => Resolve.withDefs r ds
    | none => []
  let mut terms : List (List Nat × Term) := []
  for a in sets do
    let targets ← a.columns.mapM fun c =>
      match cols.findIdx? (sameName ·.name c) with
      | some i => pure i
      | none => stopWith (.general ("no such column: " ++ c))
    match targets, a.value with
    | [i], e =>
      let ts ← lift (Resolve.resolveIn db chain defs [e])
      terms := terms ++ ts.map fun (term, _) => ([i], term)
    | _, .row items =>
      if items.length != targets.length then
        stopWith (.general (toString targets.length ++ " columns assigned " ++ toString items.length ++ " values"))
      let ts ← lift (Resolve.resolveIn db chain defs items)
      terms := terms ++ (targets.zip ts).map fun (i, (term, _)) => ([i], term)
    | _, _ => stopWith (.general (toString targets.length ++ " columns assigned 1 values"))
  let (rows, db0) ← viewRows db params frame ctes v aliasName filter
  let mut db := db0
  for row in rows do
    let scope : Scope := { row := #[SqlValue.null] ++ row }
    let mut nv := row
    for (targets, term) in terms do
      let (x, db') ← lift (db.runEval params (evalTerm 100000 (scope :: frame.scopes) term))
      db := db'
      for i in targets do nv := nv.set! i x
    let ev := (viewEvent v cols (.update (setNames sets)) stmt).withRows (some (0, row)) (some (0, nv))
    let (db', _) ← fire db ev
    db := db'
  return { db, count := 0 }

/-- DELETE from a view: each row the WHERE keeps goes to the view's INSTEAD
OF DELETE triggers. -/
def deleteFromView (db : Database) (params : Array SqlValue) (frame : TriggerFrame) (fire : Fire)
    (ctes : Option (Bool × List TableExpr)) (stmt : Option Resolution) (v : View) (aliasName : Option String)
    (filter : Option Expr) : Change Changed := do
  let cols ← lift (viewColumns db v)
  let (rows, db0) ← viewRows db params frame ctes v aliasName filter
  let mut db := db0
  for row in rows do
    let (db', _) ← fire db ((viewEvent v cols .delete stmt).withRows (some (0, row)) none)
    db := db'
  return { db, count := 0 }

/-- The view a statement changes through its INSTEAD OF triggers, if it
names one that has them. -/
def triggeredView (db : Database) (name : String) (change : RowChange) : Option View :=
  match db.view? name with
  | some v => if db.hasInsteadOf v.name change then some v else none
  | none => none

end Database

end ReportExport.Sql
