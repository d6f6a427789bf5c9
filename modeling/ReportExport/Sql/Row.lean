import ReportExport.Sql.Resolve.Table
import ReportExport.Sql.Eval

/-!
# Evaluating over one row

Defaults, constraints and generated columns are expressions evaluated on
one row of one table, or on no row at all. The scope of a row holds its
rowid (NULL for a table without one) and then its columns.

A generated column holds the value of an expression over the other columns
of its row, given the column's affinity; it takes no value from INSERT or
UPDATE and has no default. Its expression reads only the columns of the
row: not the rowid and no query. The generated columns of a row are
computed in passes, in column order: a pass computes each column whose
expression reads no generated column still to be computed, and another pass
follows while some are left and the pass computed any. When a pass computes
none, the columns read each other in a loop, and the statement fails naming
the last column that had to wait (`Table.generationOrder`).
-/

namespace ReportExport.Sql

open Text

/-- Evaluates an evaluation against a database, keeping its random state,
given the rows of the queries that run once that have run already; and
gives those back. -/
def Database.runEvalOnce {α : Type} (db : Database) (params : Array SqlValue) (once : OnceRows)
    (m : Eval α) : Except SqlError (α × Database × OnceRows) :=
  match (m.run { db, params }).run { random := db.random, once } with
  | .ok (a, st) => .ok (a, { db with random := st.random }, st.once)
  | .error e => .error e

/-- Evaluates an evaluation against a database, keeping its random state. -/
def Database.runEval {α : Type} (db : Database) (params : Array SqlValue) (m : Eval α) :
    Except SqlError (α × Database) :=
  match db.runEvalOnce params [] m with
  | .ok (a, db, _) => .ok (a, db)
  | .error e => .error e

/-- Evaluates an expression that reads no row. -/
def Database.evalConstant (db : Database) (params : Array SqlValue) (e : Expr) :
    Except SqlError (SqlValue × Database) := do
  let ts ← Resolve.resolveOver db none [] [e]
  match ts with
  | [(t, _)] => db.runEval params (evalTerm 100000 [] t)
  | _ => .ok (.null, db)

/-- The scope of a table row: the rowid (NULL for a table without one), then
the columns. -/
def Table.scopeOf (t : Table) (rowid : Int) (vals : Array SqlValue) : Scope :=
  { row := #[if t.withoutRowid then SqlValue.null else .integer rowid] ++ vals }

/-- Whether an expression names one of the columns; a query inside it counts
as naming them all. -/
def Expr.mentions (names : List String) : Nat → Expr → Bool
  | 0, _ => true
  | fuel + 1, e =>
    let go := Expr.mentions names fuel
    match e with
    | .column _ _ n _ => names.any (sameName · n)
    | .literal _ | .number _ _ | .param _ | .raise _ _ => false
    | .unary _ a | .collate a _ | .cast a _ | .isNull a _ | .truth a _ _ => go a
    | .binary _ a b => go a || go b
    | .between a b c _ => go a || go b || go c
    | .inList a items _ => go a || items.any go
    | .inQuery a _ _ | .inTable a _ _ => go a || true
    | .pattern _ a b esc _ => go a || go b || esc.any go
    | .caseOf op bs other => op.any go || bs.any (fun (x, y) => go x || go y) || other.any go
    | .call _ args _ _ _ _ _ => args.any go
    | .row items => items.any go
    | .subquery _ | .exists _ => true

namespace Table

/-- The expression of the column at a position, when it is generated. -/
def generatorAt (t : Table) (i : Nat) : Option Expr :=
  (t.columns[i]?.bind (·.generated)).map (·.e)

/-- The positions of the generated columns. -/
def generatedColumns (t : Table) : List Nat :=
  (List.range t.columns.size).filter fun i => (t.generatorAt i).isSome

/-- The positions of the columns a row is given values for: those not
generated. -/
def givenColumns (t : Table) : List Nat :=
  (List.range t.columns.size).filter fun i => (t.generatorAt i).isNone

/-- The names of the columns at some positions. -/
def namesAt (t : Table) (cs : List Nat) : List String :=
  cs.filterMap fun i => t.columns[i]?.map (·.name)

/-- Whether the column at a position is generated from one of the named
columns. -/
def readsAny (t : Table) (names : List String) (i : Nat) : Bool :=
  match t.generatorAt i with
  | some e => Expr.mentions names 200 e
  | none => false

/-- One pass over the generated columns left to compute, in column order:
those still left after it, those it computed in order, and the last one that
had to wait. -/
def generationPass (t : Table) (left : List Nat) : List Nat × List Nat × Option Nat :=
  left.foldl (fun (left, done, waiting) i =>
    if t.readsAny (t.namesAt left) i then (left, done, some i)
    else (left.erase i, done ++ [i], waiting)) (left, [], none)

/-- The generated columns left in `left` in the order they are computed,
after `order`; at most `fuel` more passes. -/
def generationOrderFrom (t : Table) : Nat → List Nat → List Nat → Except SqlError (List Nat)
  | 0, _, order => .ok order
  | fuel + 1, left, order =>
    let (left', done, waiting) := t.generationPass left
    match waiting with
    | none => .ok (order ++ done)
    | some i =>
      if done.isEmpty then
        .error (.general ("generated column loop on \"" ++ (t.namesAt [i]).headD "" ++ "\""))
      else generationOrderFrom t fuel left' (order ++ done)

/-- The order in which the generated columns of a row are computed. Each
pass but the last computes at least one column, so one pass more than there
are generated columns is enough. -/
def generationOrder (t : Table) : Except SqlError (List Nat) :=
  t.generationOrderFrom (t.generatedColumns.length + 1) t.generatedColumns []

/-- The level generated columns are resolved in: the table's columns under
its name, without the rowid. -/
def generationLevel (t : Table) : Resolve.Level :=
  { items := #[{ name := t.name, columns := Resolve.tableColumns t, rowid := none, offset := 0 }] }

/-- The columns a change of some columns (and of the rowid, when
`rowidChanged`) changes, with the generated columns that read them, and
those that read these in turn; at most `fuel` rounds. -/
def changedWith (t : Table) (rowidChanged : Bool) : Nat → List Nat → List Nat
  | 0, cs => cs
  | fuel + 1, cs =>
    let names := t.namesAt cs ++ (if rowidChanged then t.namesAt t.rowidColumn.toList else [])
    let more := t.generatedColumns.filter fun i => !cs.contains i && t.readsAny names i
    if more.isEmpty then cs else changedWith t rowidChanged fuel (cs ++ more)

end Table

namespace Database

/-- Fails when a new table's generated columns cannot be computed: when an
expression does not resolve over the table's columns or reads a query (the
failure of the last such column is the one reported), or when every column
is generated. -/
def checkGenerated (db : Database) (t : Table) : Except SqlError Unit := do
  let gens := t.generatedColumns
  if gens.isEmpty then return ()
  let failures := gens.filterMap fun i =>
    match t.generatorAt i with
    | some e =>
      if Expr.mentions [] 200 e then some (SqlError.general "subqueries prohibited in generated columns")
      else match Resolve.resolveIn db [t.generationLevel] [] [e] with
        | .error err => some err
        | .ok _ => none
    | none => none
  if t.givenColumns.isEmpty then throw (.general "must have at least one non-generated column")
  match failures.getLast? with
  | some err => throw err
  | none => pure ()

/-- The generated columns of a table, in the order they are computed, with
their resolved expressions. -/
def generators (db : Database) (t : Table) : Except SqlError (List (Nat × Term)) := do
  let order ← t.generationOrder
  let terms ← Resolve.resolveIn db [t.generationLevel] [] (order.filterMap t.generatorAt)
  pure (order.zip (terms.map (·.1)))

/-- A row with its generated columns computed, each given its column's
affinity. -/
def generate (db : Database) (t : Table) (gens : List (Nat × Term)) (vals : Array SqlValue) :
    Except SqlError (Array SqlValue × Database) :=
  gens.foldlM (fun (vals, db) (i, term) => do
    let (v, db) ← db.runEval #[] (evalTerm 100000 [{ row := #[SqlValue.null] ++ vals }] term)
    let affinity := (t.columns[i]?.map (·.affinity)).getD .blob
    pure (vals.set! i (v.stored affinity), db)) (vals, db)

end Database

end ReportExport.Sql
