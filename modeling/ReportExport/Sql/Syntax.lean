import ReportExport.Sql.Value

/-!
# SQL syntax

The statements the engine runs, as the parser builds them: expressions,
queries (compound, with common table expressions, joins and windows), table,
index and view definitions, the statements that change rows, and the
statements that control transactions.

Parts of the text are kept where the engine later shows them: the text of a
result column names it when no alias does, a CHECK constraint's text is
reported when it fails, and a definition's text is what the catalog stores.
-/

namespace ReportExport.Sql

/-- Prefix operators. -/
inductive UnaryOp where
  | neg | pos | not | bitNot
  deriving Repr, DecidableEq, Inhabited

/-- Infix operators. -/
inductive BinaryOp where
  | add | sub | mul | div | rem | concat
  | eq | ne | lt | le | gt | ge | is | isNot
  | and | or
  | bitAnd | bitOr | shl | shr
  /-- `->`, which extracts JSON -/
  | extract
  /-- `->>`, which extracts a JSON value as SQL -/
  | extractValue
  deriving Repr, DecidableEq, Inhabited

namespace BinaryOp

/-- Whether the operator compares its operands. -/
def isComparison : BinaryOp → Bool
  | .eq | .ne | .lt | .le | .gt | .ge | .is | .isNot => true
  | _ => false

end BinaryOp

/-- The pattern operators. -/
inductive PatternOp where
  | like | glob | regexp | match
  deriving Repr, DecidableEq, Inhabited

/-- The units a window frame counts in. -/
inductive FrameUnit where
  | rows | range | groups
  deriving Repr, DecidableEq, Inhabited

/-- Which rows a window frame leaves out. -/
inductive FrameExclusion where
  | noOthers | currentRow | group | ties
  deriving Repr, DecidableEq, Inhabited

/-- The join operators. -/
inductive JoinKind where
  | inner | left | right | full | cross
  deriving Repr, DecidableEq, Inhabited

/-- The compound operators. -/
inductive CompoundOp where
  | union | unionAll | intersect | except
  deriving Repr, DecidableEq, Inhabited

/-- What a statement does when a row breaks a constraint. -/
inductive Resolution where
  | rollback | abort | fail | ignore | replace
  deriving Repr, DecidableEq, Inhabited

mutual

/-- Expressions. -/
inductive Expr where
  /-- a literal value -/
  | literal (v : SqlValue)
  /-- a numeric literal as written (without digit separators): its value is
  settled when it is known whether a minus sign stands before it -/
  | number (text : String) (isFloat : Bool)
  /-- a parameter by its number -/
  | param (index : Nat)
  /-- a name, possibly qualified by a table and a schema; `quoted` when it was
  written in double quotes and may stand for a string -/
  | column (schema table : Option String) (name : String) (quoted : Bool)
  | unary (op : UnaryOp) (e : Expr)
  | binary (op : BinaryOp) (a b : Expr)
  /-- `e IS [NOT] TRUE` and `e IS [NOT] FALSE` -/
  | truth (e : Expr) (value negated : Bool)
  | isNull (e : Expr) (negated : Bool)
  | between (e lo hi : Expr) (negated : Bool)
  | inList (e : Expr) (items : List Expr) (negated : Bool)
  | inQuery (e : Expr) (q : Query) (negated : Bool)
  | inTable (e : Expr) (table : String) (negated : Bool)
  | pattern (op : PatternOp) (e pat : Expr) (escape : Option Expr) (negated : Bool)
  | collate (e : Expr) (collation : String)
  | cast (e : Expr) (typeName : String)
  | caseOf (operand : Option Expr) (branches : List (Expr × Expr)) (otherwise : Option Expr)
  /-- a function call: name, arguments, DISTINCT, `*`, ORDER BY in the
  arguments, FILTER and OVER -/
  | call (name : String) (args : List Expr) (distinct star : Bool) (orderBy : List OrderTerm)
      (filter : Option Expr) (overClause : Option Over)
  | subquery (q : Query)
  | exists (q : Query)
  /-- a parenthesized list of values -/
  | row (items : List Expr)
  /-- `RAISE`, inside a trigger -/
  | raise (action : Resolution) (message : Option String)

/-- A term of ORDER BY: the expression, whether it sorts descending, and where
NULLs go when said. -/
inductive OrderTerm where
  | mk (e : Expr) (descending : Bool) (nullsFirst : Option Bool)

/-- The window of a window function: by name, or given in place. -/
inductive Over where
  | named (name : String)
  | spec (w : WindowSpec)

/-- A window: the window it extends, partitions, order and frame. -/
inductive WindowSpec where
  | mk (base : Option String) (partition : List Expr) (orderBy : List OrderTerm)
      (frame : Option Frame)

/-- A bound of a frame. -/
inductive FrameBound where
  | unboundedPreceding
  | preceding (e : Expr)
  | currentRow
  | following (e : Expr)
  | unboundedFollowing

/-- A window frame. -/
inductive Frame where
  | mk (unit : FrameUnit) (start stop : FrameBound) (exclusion : FrameExclusion)

/-- A result column: all columns, the columns of one table, or an expression
with its alias and the text it was written as. -/
inductive ResultColumn where
  | all
  | allOf (table : String)
  | expr (e : Expr) (aliasName : Option String) (text : String)

/-- An item of FROM. -/
inductive FromItem where
  /-- a table or view by name, with an alias -/
  | table (schema : Option String) (name : String) (aliasName : Option String)
  /-- a table-valued function -/
  | function (name : String) (args : List Expr) (aliasName : Option String)
  | subquery (q : Query) (aliasName : Option String)
  /-- a parenthesized join -/
  | nested (f : FromClause) (aliasName : Option String)

/-- What joins two items: ON, USING, or nothing. -/
inductive JoinConstraint where
  | none
  | on (e : Expr)
  | using (columns : List String)

/-- A join step: the operator (and whether NATURAL), the item and its constraint. -/
inductive JoinStep where
  | mk (kind : JoinKind) (natural : Bool) (item : FromItem) (constraint : JoinConstraint)

/-- A FROM clause: the first item and the joins after it. -/
inductive FromClause where
  | mk (first : FromItem) (constraint : JoinConstraint) (joins : List JoinStep)

/-- A simple query or a VALUES list. -/
inductive Core where
  /-- DISTINCT, result columns, FROM, WHERE, GROUP BY, HAVING and named windows -/
  | select (distinct : Bool) (columns : List ResultColumn) (source : Option FromClause)
      (filter : Option Expr) (groupBy : List Expr) (having : Option Expr)
      (windows : List (String × WindowSpec))
  | values (rows : List (List Expr))

/-- A common table expression: name, column names, and the query. -/
inductive TableExpr where
  | mk (name : String) (columns : Option (List String)) (materialized : Option Bool) (q : Query)

/-- A query: WITH (and whether RECURSIVE), the first core, the compound
steps, ORDER BY, LIMIT and OFFSET. -/
inductive Query where
  | mk (recursive : Bool) (ctes : List TableExpr) (first : Core) (rest : List (CompoundOp × Core))
      (orderBy : List OrderTerm) (limit offset : Option Expr)

end

instance : Inhabited Expr := ⟨.literal .null⟩
instance : Inhabited Query := ⟨.mk false [] (.values []) [] [] none none⟩

namespace OrderTerm

/-- The expression of an ORDER BY term. -/
def expr : OrderTerm → Expr
  | .mk e _ _ => e

/-- Whether an ORDER BY term sorts descending. -/
def descending : OrderTerm → Bool
  | .mk _ d _ => d

/-- Where an ORDER BY term puts NULLs, when said. -/
def nullsFirst : OrderTerm → Option Bool
  | .mk _ _ n => n

end OrderTerm

/-- What happens to rows referring to a changed or deleted parent row. -/
inductive ForeignAction where
  | noAction | setNull | setDefault | cascade | restrict
  deriving Repr, DecidableEq, Inhabited

/-- A reference to a parent table. -/
structure ForeignKey where
  columns : List String
  parent : String
  parentColumns : List String
  onDelete : ForeignAction := .noAction
  onUpdate : ForeignAction := .noAction
  deferred : Bool := false
  deriving Inhabited

/-- A CHECK constraint: the expression and the name it is reported by. -/
structure CheckConstraint where
  e : Expr
  name : String
  deriving Inhabited

/-- A column of an index or a key: an expression (usually a column name),
its collation, and whether it sorts descending. -/
structure IndexedColumn where
  e : Expr
  collation : Option String := none
  descending : Bool := false
  deriving Inhabited

/-- A generated column's expression and whether it is stored. -/
structure Generated where
  e : Expr
  stored : Bool
  deriving Inhabited

/-- A column definition. -/
structure ColumnDef where
  name : String
  /-- the declared type as written, empty when none -/
  declared : String := ""
  primaryKey : Option (Bool × Option Resolution × Bool) := none
  notNull : Option (Option Resolution) := none
  unique : List (Option Resolution) := []
  /-- the default and the text it was written as -/
  default : Option (Expr × String) := none
  collation : Option String := none
  checks : List CheckConstraint := []
  references : List ForeignKey := []
  generated : Option Generated := none
  deriving Inhabited

/-- A table constraint. -/
inductive TableConstraint where
  | primaryKey (columns : List IndexedColumn) (autoincrement : Bool) (onConflict : Option Resolution)
  | unique (columns : List IndexedColumn) (onConflict : Option Resolution)
  | check (c : CheckConstraint)
  | foreignKey (fk : ForeignKey)
  deriving Inhabited

/-- The body of CREATE TABLE: columns, constraints and options. -/
structure TableDef where
  columns : List ColumnDef
  constraints : List TableConstraint
  withoutRowid : Bool := false
  strict : Bool := false
  /-- where a column added later goes into the stored text of the definition -/
  addColumnAt : Nat := 0
  deriving Inhabited

/-- Where inserted rows come from. -/
inductive InsertSource where
  | query (q : Query)
  | defaults
  deriving Inhabited

/-- A SET item of UPDATE: the columns and the value. -/
structure Assignment where
  columns : List String
  value : Expr
  deriving Inhabited

/-- What an upsert does. -/
inductive UpsertAction where
  | nothing
  | update (sets : List Assignment) (filter : Option Expr)
  deriving Inhabited

/-- An ON CONFLICT clause of INSERT: the target columns and their WHERE, and
the action. -/
structure Upsert where
  target : Option (List IndexedColumn × Option Expr)
  action : UpsertAction
  deriving Inhabited

/-- The kinds of schema object. -/
inductive ObjectKind where
  | table | index | view | trigger
  deriving Repr, DecidableEq, Inhabited

namespace ObjectKind

/-- The word the catalog uses for the kind. -/
def word : ObjectKind → String
  | .table => "table"
  | .index => "index"
  | .view => "view"
  | .trigger => "trigger"

end ObjectKind

/-- How BEGIN takes its locks. -/
inductive BeginKind where
  | deferred | immediate | exclusive
  deriving Repr, DecidableEq, Inhabited

/-- The value of a PRAGMA: a name, a number or a string. -/
inductive PragmaValue where
  | name (s : String)
  | number (negative : Bool) (text : String)
  | text (s : String)
  deriving Inhabited

/-- When a trigger fires. -/
inductive TriggerTime where
  | before | after | insteadOf
  deriving Repr, DecidableEq, Inhabited

/-- What a trigger fires on. -/
inductive TriggerEvent where
  | insert | delete
  | update (columns : Option (List String))
  deriving Inhabited

/-- A statement. -/
inductive Statement where
  | query (q : Query)
  /-- CREATE TABLE: TEMP, IF NOT EXISTS, name, body, and the stored text -/
  | createTable (temp ifNotExists : Bool) (name : String) (body : TableDef) (text : String)
  | createTableAs (temp ifNotExists : Bool) (name : String) (q : Query)
  | createIndex (unique ifNotExists : Bool) (name table : String) (columns : List IndexedColumn)
      (filter : Option Expr) (text : String)
  | createView (temp ifNotExists : Bool) (name : String) (columns : Option (List String))
      (q : Query) (text : String)
  | createTrigger (temp ifNotExists : Bool) (name : String) (time : TriggerTime)
      (event : TriggerEvent) (table : String) (condition : Option Expr) (body : List Statement)
      (text : String)
  | drop (kind : ObjectKind) (ifExists : Bool) (name : String)
  | renameTable (table newName : String)
  /-- ALTER TABLE ... RENAME COLUMN: the table, the column, the new name and
  whether the new name was written quoted -/
  | renameColumn (table column newName : String) (quoted : Bool)
  | addColumn (table : String) (column : ColumnDef) (text : String)
  | dropColumn (table column : String)
  /-- INSERT: WITH, conflict resolution, table, alias, columns, source, upserts, RETURNING -/
  | insert (ctes : Option (Bool × List TableExpr)) (resolution : Option Resolution) (table : String)
      (aliasName : Option String) (columns : Option (List String)) (source : InsertSource)
      (upserts : List Upsert) (returning : List ResultColumn)
  /-- UPDATE: WITH, conflict resolution, table, alias, assignments, FROM, WHERE, RETURNING -/
  | update (ctes : Option (Bool × List TableExpr)) (resolution : Option Resolution) (table : String)
      (aliasName : Option String) (sets : List Assignment) (source : Option FromClause)
      (filter : Option Expr) (returning : List ResultColumn)
  /-- DELETE: WITH, table, alias, WHERE, RETURNING -/
  | delete (ctes : Option (Bool × List TableExpr)) (table : String) (aliasName : Option String)
      (filter : Option Expr) (returning : List ResultColumn)
  | pragma (name : String) (value : Option PragmaValue)
  | begin (kind : BeginKind)
  | commit
  | rollback (savepoint : Option String)
  | savepoint (name : String)
  | release (name : String)
  /-- statements that change nothing the engine keeps: VACUUM, ANALYZE, REINDEX -/
  | maintenance
  deriving Inhabited

end ReportExport.Sql
