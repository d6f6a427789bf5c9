import ReportExport.Sql.Schema

/-!
# Resolved queries

What a statement's expressions and queries become once every name is bound:
a column is a slot of a row some number of query levels out, an aggregate
is a slot of its group's results, a window function a slot of the row's
window results. Comparisons carry the affinity applied to their operands and
the collation that orders text, both fixed by the operands' own affinities
and collations.

A query plan reads its FROM items in order, joining each to the rows before
it; a row is the concatenation of the items' rows, each led by its rowid
slot. A plan also knows its output: the names, affinities and collations of
its columns, which an enclosing query uses.
-/

namespace ReportExport.Sql

/-- The comparison operators. -/
inductive Comparison where
  | eq | ne | lt | le | gt | ge | is | isNot
  deriving Repr, DecidableEq, Inhabited

namespace Comparison

/-- Whether an order of the operands satisfies the comparison. -/
def holds (op : Comparison) (o : Ordering) : Bool :=
  match op with
  | .eq | .is => o == .eq
  | .ne | .isNot => o != .eq
  | .lt => o == .lt
  | .le => o != .gt
  | .gt => o == .gt
  | .ge => o != .lt

end Comparison

/-- How two values are compared: the affinity applied to both first, and the
collation of text. -/
structure CompareRule where
  affinity : Affinity := .blob
  collation : Collation := .binary
  deriving Repr, Inhabited

mutual

/-- A resolved expression. -/
inductive Term where
  | value (v : SqlValue)
  | param (index : Nat)
  /-- a slot of the row `depth` query levels out -/
  | column (depth slot : Nat)
  | negate (t : Term)
  | bitNot (t : Term)
  | not (t : Term)
  /-- arithmetic, bitwise, concatenation and JSON operators -/
  | arith (op : BinaryOp) (a b : Term)
  | and (a b : Term)
  | or (a b : Term)
  | compare (op : Comparison) (a b : Term) (rule : CompareRule)
  | compareRows (op : Comparison) (a b : List Term) (rules : List CompareRule)
  | truth (t : Term) (value negated : Bool)
  | isNull (t : Term) (negated : Bool)
  | between (t lo hi : Term) (lower upper : CompareRule) (negated : Bool)
  | inList (t : Term) (items : List Term) (rule : CompareRule) (negated : Bool)
  /-- a query's rows searched for a row of values; `once`, for a query that
  reads nothing of the rows around it, numbers it so that it runs at most
  once -/
  | inQuery (ts : List Term) (q : Plan) (rules : List CompareRule) (negated : Bool) (once : Option Nat)
  | exists (q : Plan) (once : Option Nat)
  /-- the value in a column of the first row of a query, NULL when it has
  no rows -/
  | scalar (q : Plan) (column : Nat) (once : Option Nat)
  | cast (t : Term) (a : Affinity)
  | caseOf (operand : Option Term) (branches : List (Term × Term × CompareRule))
      (otherwise : Option Term)
  /-- a scalar function by its lower-case name, with the collation it
  compares text by -/
  | call (name : String) (args : List Term) (collation : Collation)
  /-- a slot of the aggregate results of the group, `depth` levels out -/
  | aggregate (depth index : Nat)
  /-- a slot of the window results of the row -/
  | window (index : Nat)
  | raise (action : Resolution) (message : String)
  /-- a term of the level `depth` out, used in an inner level -/
  | outer (depth : Nat) (t : Term)
  /-- a term of an inner level `depth` in, used in the level around it (the
  argument of an aggregate that belongs to an outer query) -/
  | lifted (depth : Nat) (t : Term)
  /-- a value that is JSON text to JSON functions when it holds an array or
  an object (a value column of `json_each` or `json_tree`) -/
  | jsonValue (t : Term)

/-- A sort key: the term, whether descending, whether NULLs come first, and
the collation of text. -/
inductive SortKey where
  | mk (t : Term) (descending nullsFirst : Bool) (collation : Collation)

/-- An aggregate call: the function, arguments, DISTINCT, FILTER, ORDER BY
and the collation of text. -/
inductive AggregateCall where
  | mk (name : String) (args : List Term) (distinct : Bool) (filter : Option Term)
      (orderBy : List SortKey) (collation : Collation)

/-- A bound of a window frame with its offset. -/
inductive Bound where
  | unboundedPreceding
  | preceding (t : Term)
  | currentRow
  | following (t : Term)
  | unboundedFollowing

/-- A window function call: the function, arguments, FILTER, partition
keys, order, and frame. -/
inductive WindowCall where
  | mk (name : String) (args : List Term) (filter : Option Term) (partition : List (Term × Collation))
      (orderBy : List SortKey) (unit : FrameUnit) (start stop : Bound) (exclusion : FrameExclusion)

/-- Where the rows of a FROM item come from. -/
inductive Source where
  /-- the stored rows of a table, each led by its rowid -/
  | table (name : String)
  /-- the rows of the schema table -/
  | schema
  /-- the rows of a query, with a NULL in the rowid slot -/
  | query (p : Plan)
  /-- the row a recursive query is working on -/
  | recursive (id : Nat)
  /-- the rows of a table-valued function -/
  | function (name : String) (args : List Term)

/-- A FROM item: how it joins the items before it, its rows, their width
(with the rowid slot), and the join condition. -/
inductive Joined where
  | mk (kind : JoinKind) (source : Source) (width : Nat) (condition : Option Term)

/-- A resolved query. -/
inductive Plan where
  /-- a select: FROM, WHERE, GROUP BY (with collations), whether it
  aggregates, its aggregate calls, HAVING, window calls, outputs, the
  collations of DISTINCT when it has one, ORDER BY, LIMIT and OFFSET -/
  | select (sources : List Joined) (filter : Option Term) (groupBy : List (Term × Collation))
      (aggregated : Bool) (aggregates : List AggregateCall) (having : Option Term)
      (windows : List WindowCall) (outputs : List Term) (distinct : Option (List Collation))
      (orderBy : List SortKey) (limit offset : Option Term)
  | values (rows : List (List Term))
  /-- a compound: operator, the two sides, the collations of the columns,
  ORDER BY (column, descending, NULLs first, collation), LIMIT and OFFSET -/
  | compound (op : CompoundOp) (left right : Plan) (collations : List Collation)
      (orderBy : List (Nat × Bool × Bool × Collation)) (limit offset : Option Term)
  /-- a recursive query: its id, the first rows, the step run on each row,
  whether rows may repeat, the collations of its columns, ORDER BY, LIMIT
  and OFFSET -/
  | recursive (id : Nat) (setup step : Plan) (unionAll : Bool) (collations : List Collation)
      (orderBy : List (Nat × Bool × Bool × Collation)) (limit offset : Option Term)

end

instance : Inhabited Term := ⟨.value .null⟩
instance : Inhabited Plan := ⟨.values []⟩
instance : Inhabited AggregateCall := ⟨.mk "" [] false none [] .binary⟩

/-- A column of a query's output: its name, affinity and collation. -/
structure OutputColumn where
  name : String
  affinity : Affinity := .none
  collation : Collation := .binary
  /-- whether a COLLATE was written on it -/
  explicitCollation : Bool := false
  /-- the declared type, for a column read straight from a table -/
  declared : String := ""
  /-- whether `*` and NATURAL joins leave the column out -/
  hidden : Bool := false
  /-- whether its values are JSON text when they hold an array or object -/
  jsonValued : Bool := false
  deriving Inhabited

end ReportExport.Sql
