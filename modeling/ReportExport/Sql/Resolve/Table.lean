import ReportExport.Sql.Resolve.Query

/-!
# Resolving expressions over one table

The statements that change rows read one row of one table at a time: the
WHERE of UPDATE and DELETE, the new values of UPDATE, CHECK constraints,
and RETURNING. Their expressions are resolved in a single level holding the
table under its name (or alias), so that a row of the table, led by its
rowid, is the row they are evaluated on. Defaults and the rows of VALUES
are resolved with no table at all.
-/

namespace ReportExport.Sql.Resolve

open ReportExport.Sql

/-- The columns of a table as a query sees them. -/
def tableColumns (t : Table) : Array OutputColumn :=
  t.columns.map fun c =>
    ({ name := c.name, affinity := c.affinity, collation := c.collation, declared := c.declared } :
      OutputColumn)

/-- The level of one table read under a name; its rows are led by the rowid. -/
def tableLevel (t : Table) (name : String) : Level :=
  { items := #[{ name, columns := tableColumns t, rowid := if t.withoutRowid then none else some t.rowidColumn,
                 offset := 0 }] }

/-- Runs a resolution in a level of its own, failing with its pending error. -/
def inLevel {α : Type} (db : Database) (body : R α) : Except SqlError α :=
  let go : R α := do
    openLevel
    let r ← body
    let _ ← closeLevel
    settle
    pure r
  (go.run (schemaView db)).run' {}

/-- Resolves expressions over levels, the innermost first, with common table
expressions in scope. -/
def resolveIn (db : Database) (chain : List Level) (ctes : List TableExprDef) (es : List Expr) :
    Except SqlError (List (Term × Typing)) :=
  inLevel db (exprs 100000 { chain, ctes } es)

/-- Runs a resolution over levels (the innermost first) with common table
expressions in scope, in a level of its own: one numbering of the queries
that run once covers all it resolves. -/
def resolveUsing {α : Type} (db : Database) (chain : List Level) (ctes : List TableExprDef) (body : Ctx → R α) :
    Except SqlError α :=
  inLevel db (body { chain, ctes })

/-- Resolves expressions over a table's row, or over no row, with common
table expressions in scope. -/
def resolveOver (db : Database) (level : Option Level) (ctes : List TableExprDef) (es : List Expr) :
    Except SqlError (List (Term × Typing)) :=
  resolveIn db level.toList ctes es

/-- Resolves a RETURNING list over a table's row: the names of its columns
and their terms. -/
def resolveReturning (db : Database) (level : Level) (cols : List ResultColumn) :
    Except SqlError (List String × List Term) := do
  let entries ← match expandColumns level.items cols with
    | .ok es => .ok es
    | .error m => .error (.general m)
  let results ← inLevel db (resultColumns 100000 { chain := [level] } entries)
  let names := (List.range results.length).map fun i => ((results.getD i default).naming).display i
  .ok (names, results.map (·.term))

/-- Resolves a query inside levels (the innermost first) with the common
table expressions of a WITH before it. -/
def resolveQueryIn (db : Database) (chain : List Level) (ctes : Option (Bool × List TableExpr)) (q : Query) :
    Except SqlError Resolved :=
  let defs := match ctes with
    | some (recursive, defs) => withDefs recursive defs
    | none => []
  ((query 100000 chain defs q).run (schemaView db)).run' {}

end ReportExport.Sql.Resolve
