import ReportExport.Sql.Plan
import ReportExport.Sql.Function.Catalog

/-!
# Name resolution: scopes and typing

Resolution binds every name of a statement. A query level sees its FROM
items (each with its columns, its rowid if it has one, and the columns it
shares with an item to its left through USING or NATURAL), and, in WHERE,
GROUP BY, HAVING and ORDER BY, the aliases of its result columns. A name not
found in a level is looked up in the levels around it.

Every resolved expression has a typing: its affinity (a column's, a CAST's
type, a subquery's first column; none for other expressions) and its
collation (a column's, or one written with COLLATE, which wins over a
column's in a comparison).

Errors that name a function do not stop resolution at once: the last
message of an expression is the one reported. Errors that name a column do.
-/

namespace ReportExport.Sql.Resolve

open ReportExport.Sql

/-- The affinity and collation of an expression; `explicit` when the
collation comes from a COLLATE in it. -/
structure Typing where
  affinity : Affinity := .none
  collation : Option Collation := none
  explicit : Bool := false
  deriving Inhabited

/-- A FROM item as names see it. -/
structure Item where
  /-- the alias, or the table's name -/
  name : String
  columns : Array OutputColumn
  /-- whether the item has a rowid, and the column that is the rowid -/
  rowid : Option (Option Nat)
  /-- the slot of the item's rowid in the joined row -/
  offset : Nat
  /-- columns shared with an item to the left -/
  shared : List String := []
  /-- the join operator before the item -/
  kind : JoinKind := .inner
  /-- whether the item is the schema table -/
  isSchema : Bool := false
  /-- whether its columns are found only when qualified by its name, as the
  rows `excluded` of an upsert and `new` and `old` of a trigger are -/
  qualifiedOnly : Bool := false
  deriving Inhabited

/-- A result column as later clauses see it: its alias, its term and typing,
and whether it holds an aggregate or a window function. -/
structure Alias where
  name : String
  term : Term
  typing : Typing
  aggregate : Bool
  window : Bool
  deriving Inhabited

/-- A query level: its FROM items, and its result aliases once visible. -/
structure Level where
  items : Array Item := #[]
  aliases : Array Alias := #[]
  useAliases : Bool := false
  deriving Inhabited

/-- A common table expression in scope: its name, column names, query, and
the id of the recursive query it belongs to while its own step is resolved,
with the columns of the rows it then reads. -/
structure TableExprDef where
  name : String
  columns : Option (List String)
  query : Query
  /-- whether it was defined by WITH RECURSIVE, so its body sees itself -/
  recursiveWith : Bool := false
  /-- whether its body is being resolved, so that a reference to it is circular -/
  busy : Bool := false
  recursive : Option (Nat × Array OutputColumn) := none
  deriving Inhabited

/-- Where an expression is resolved: the levels, innermost first, the common
table expressions in scope, and whether aggregates and window functions are
allowed here. -/
structure Ctx where
  chain : List Level
  ctes : List TableExprDef := []
  allowAggregates : Bool := false
  allowWindows : Bool := false
  /-- whether this is a WHERE clause (where an aggregate is misused later) -/
  inWhere : Bool := false
  /-- the named windows of the innermost query -/
  windowDefs : List (String × WindowSpec) := []
  deriving Inhabited

/-- What a level collects while it is resolved. -/
structure LevelState where
  aggregates : Array AggregateCall := #[]
  /-- the names the aggregates were called by, as written -/
  aggregateNames : Array String := #[]
  windows : Array WindowCall := #[]
  deriving Inhabited

/-- The resolver's state: the collections of the open levels (innermost
first), the pending error, and the next id of a recursive query. -/
structure State where
  levels : List LevelState := []
  pending : Option String := none
  nextId : Nat := 0
  /-- the innermost level (counted from the outermost, zero) a column was
  read from, since this was last cleared -/
  deepest : Option Nat := none
  /-- the outermost level a column was read from, since this was last
  cleared -/
  shallowest : Option Nat := none
  deriving Inhabited

/-- The resolver: reads the database, keeps its state, fails with an error. -/
abbrev R := ReaderT Database (StateT State (Except SqlError))

/-- What the resolver is given to read of a database: its tables without
their rows, and its views. Names are resolved against the schema alone. -/
def schemaView (db : Database) : Database :=
  { tables := db.tables.map fun t => { t with rows := #[] }, views := db.views }

/-- Fails at once. -/
def failWith {α : Type} (msg : String) : R α := throw (.general msg)

/-- Records an error that does not stop resolution; a later one replaces it. -/
def note (msg : String) : R Unit := modify fun s => { s with pending := some msg }

/-- Fails with the pending error, if any. -/
def settle : R Unit := do
  match (← get).pending with
  | some msg =>
    modify fun s => { s with pending := none }
    failWith msg
  | none => pure ()

/-- Opens a level's collections. -/
def openLevel : R Unit := modify fun s => { s with levels := {} :: s.levels }

/-- Closes the innermost level, giving back its collections. -/
def closeLevel : R LevelState := do
  let s ← get
  match s.levels with
  | l :: rest => set { s with levels := rest }; return l
  | [] => return {}

/-- Adds an aggregate to the level `depth` out; its slot. -/
def addAggregate (depth : Nat) (written : String) (a : AggregateCall) : R Nat := do
  let s ← get
  let (levels, index) := go s.levels depth
  set { s with levels }
  return index
where
  go : List LevelState → Nat → List LevelState × Nat
    | [], _ => ([], 0)
    | l :: rest, 0 =>
      ({ l with aggregates := l.aggregates.push a,
                aggregateNames := l.aggregateNames.push written } :: rest, l.aggregates.size)
    | l :: rest, d + 1 => let (r, i) := go rest d; (l :: r, i)

/-- Adds a window function to the innermost level; its slot. -/
def addWindow (w : WindowCall) : R Nat := do
  let s ← get
  match s.levels with
  | l :: rest =>
    set { s with levels := { l with windows := l.windows.push w } :: rest }
    return l.windows.size
  | [] => return 0

/-- The number of aggregates of the innermost level so far. -/
def aggregateCount : R Nat := do
  match (← get).levels with
  | l :: _ => return l.aggregates.size
  | [] => return 0

/-- The number of window functions of the innermost level so far. -/
def windowCount : R Nat := do
  match (← get).levels with
  | l :: _ => return l.windows.size
  | [] => return 0

/-- Records that a column of the level `level` (counted from the outermost)
was read. -/
def markLevel (level : Nat) : R Unit :=
  modify fun s => { s with
    deepest := some (match s.deepest with
      | some d => max d level
      | none => level),
    shallowest := some (match s.shallowest with
      | some d => min d level
      | none => level) }

/-- A fresh id for a recursive query or a query that runs once. -/
def freshId : R Nat := do
  let s ← get
  set { s with nextId := s.nextId + 1 }
  return s.nextId

/-- Resolves a subquery of an expression whose own level is `level`
(counted from the outermost), numbering it to run at most once when it
reads nothing of the levels around it. -/
def subqueryOnce {α : Type} (level : Nat) (body : R α) : R (α × Option Nat) := do
  let saved := (← get).shallowest
  modify fun s => { s with shallowest := none }
  let r ← body
  let inner := (← get).shallowest
  modify fun s => { s with shallowest := match saved, inner with
    | some a, some b => some (min a b)
    | a, b => a.orElse fun _ => b }
  if inner.all (· ≥ level) then
    let k ← freshId
    pure (r, some k)
  else pure (r, none)

/-! ## Affinity and collation of comparisons -/

/-- The affinity a comparison applies to both operands: of two columns,
numeric if either is numeric, else none; of one column, its affinity. -/
def compareAffinity (a b : Affinity) : Affinity :=
  if a.isColumn && b.isColumn then
    if a.isNumeric || b.isNumeric then .numeric else .blob
  else if a.isColumn then a
  else if b.isColumn then b
  else .none

/-- The collation a comparison uses: a COLLATE on the left, else one on the
right, else the left operand's, else the right's, else binary. -/
def compareCollation (a b : Typing) : Collation :=
  if a.explicit then a.collation.getD .binary
  else if b.explicit then b.collation.getD .binary
  else (a.collation.orElse fun _ => b.collation).getD .binary

/-- The rule for comparing two operands. -/
def ruleOf (a b : Typing) : CompareRule :=
  { affinity := compareAffinity a.affinity b.affinity, collation := compareCollation a b }

/-- The typing of an expression over operands: no affinity, and the
collation of the first operand that has an explicit one. -/
def combined (ts : List Typing) : Typing :=
  match ts.find? (·.explicit) with
  | some t => { collation := t.collation, explicit := true }
  | none => {}

/-- A collation by name, or the error for an unknown one. -/
def collationOf (name : String) : R Collation :=
  match Collation.ofName? name with
  | some c => pure c
  | none => failWith ("no such collation sequence: " ++ name)

/-! ## Names of result columns -/

/-- Whether a name reads as a truth value. -/
def isTruthName (n : String) : Bool := n.toLower == "true" || n.toLower == "false"

/-- Makes names unique, ignoring case: a repeated name gets `:1`, `:2`, ...
after it, a numeric `:N` it already ends with replaced. -/
def uniqueNames (names : List String) : List String :=
  let step (acc : Array String) (n : String) : Array String :=
    let taken (m : String) : Bool := acc.any (sameName · m)
    if !taken n then acc.push n
    else
      let base :=
        let cs := n.toList
        let digits := (cs.reverse.takeWhile Char.isDigit).length
        if digits > 0 && digits < cs.length && (cs.drop (cs.length - digits - 1)).head? == some ':' then
          String.ofList (cs.take (cs.length - digits - 1))
        else n
      let rec find (k : Nat) : Nat → String
        | 0 => base ++ ":" ++ toString k
        | fuel + 1 =>
          let candidate := base ++ ":" ++ toString k
          if taken candidate then find (k + 1) fuel else candidate
      acc.push (find 1 (acc.size + 1))
  (names.foldl step #[]).toList

end ReportExport.Sql.Resolve
