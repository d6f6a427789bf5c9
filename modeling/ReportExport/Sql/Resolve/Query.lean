import ReportExport.Sql.Resolve.Names

/-!
# Resolving expressions and queries

Turns the syntax of a query into a plan. The parts of a simple query are
resolved in a fixed order, which decides which error a faulty query reports:
LIMIT and OFFSET (which see no names), the FROM items, the result columns,
then HAVING, WHERE (with the ON clauses), ORDER BY and GROUP BY, which also
see the result aliases. The simple queries of a compound are resolved from
right to left; its ORDER BY is matched against their result columns last.

An aggregate call belongs to the innermost query whose columns it reads; a
query with an aggregate or GROUP BY aggregates its rows.
-/

namespace ReportExport.Sql.Resolve

open ReportExport.Sql

/-- The comparison a comparison operator makes. -/
def comparisonOf : BinaryOp → Comparison
  | .ne => .ne
  | .lt => .lt
  | .le => .le
  | .gt => .gt
  | .ge => .ge
  | .is => .is
  | .isNot => .isNot
  | _ => .eq

/-- The value of a numeric literal, negated when a minus sign stands before it. -/
def numberTerm (text : String) (isFloat negated : Bool) : R (Term × Typing) :=
  if isFloat then pure (.value (realLiteral text negated), {})
  else match integerLiteral text negated with
    | .ok v => pure (.value v, {})
    | .error msg => failWith msg

/-- The collation of the first typing that has one, else binary. -/
def firstCollation (tys : List Typing) : Collation :=
  ((tys.find? (·.collation.isSome)).bind (·.collation)).getD .binary

/-- The name a compound operator is reported by. -/
def operatorWord : CompoundOp → String
  | .union => "UNION"
  | .unionAll => "UNION ALL"
  | .intersect => "INTERSECT"
  | .except => "EXCEPT"

/-- The type name a column of a table made from a query is declared with. -/
def standardType : Affinity → String
  | .numeric => "NUM"
  | .blob => "BLOB"
  | .integer => "INT"
  | .real => "REAL"
  | .text => "TEXT"
  | .none => ""

/-- A plan with its LIMIT and OFFSET. -/
def withLimit (p : Plan) (limit offset : Option Term) : Plan :=
  match p with
  | .select s f g a ag h w o d ob _ _ => .select s f g a ag h w o d ob limit offset
  | .compound op l r c ob _ _ => .compound op l r c ob limit offset
  | .recursive i s st u c ob _ _ => .recursive i s st u c ob limit offset
  | .values rows =>
    if limit.isNone && offset.isNone then p
    else .compound .unionAll (.values rows) (.values []) [] [] limit offset

/-- Whether an offset is written in a frame bound. -/
def hasOffset : FrameBound → Bool
  | .preceding _ | .following _ => true
  | _ => false

/-- The named window of a name: its partition, order and frame, after the
window it extends. -/
def namedWindow (defs : List (String × WindowSpec)) (name : String) :
    Except String (List Expr × List OrderTerm × Option Frame) :=
  match defs.find? (fun d => sameName d.1 name) with
  | none => .error ("no such window: " ++ name)
  | some (_, .mk base p o f) =>
    match base with
    | none => .ok (p, o, f)
    | some b =>
      match defs.find? (fun d => sameName d.1 b) with
      | none => .error ("no such window: " ++ b)
      | some (_, .mk _ bp bo bf) =>
        if !p.isEmpty then .error ("cannot override PARTITION clause of window: " ++ b)
        else if !bo.isEmpty && !o.isEmpty then .error ("cannot override ORDER BY clause of window: " ++ b)
        else if bf.isSome then .error ("cannot override frame specification of window: " ++ b)
        else .ok (bp, if o.isEmpty then bo else o, f)

/-- The frame a window function proper always uses, when it has one of its own. -/
def builtinFrame (name : String) : Option (FrameUnit × Bound × Bound) :=
  match name with
  | "row_number" => some (.rows, .unboundedPreceding, .currentRow)
  | "rank" | "dense_rank" => some (.range, .unboundedPreceding, .currentRow)
  | "percent_rank" => some (.groups, .currentRow, .unboundedFollowing)
  | "cume_dist" => some (.groups, .following (.value (.integer 1)), .unboundedFollowing)
  | "ntile" => some (.rows, .currentRow, .unboundedFollowing)
  | "lead" => some (.rows, .unboundedPreceding, .unboundedFollowing)
  | "lag" => some (.rows, .unboundedPreceding, .currentRow)
  | _ => none

/-- The name and declared type of the table column an expression reads, if
it is a name that resolves to one. -/
def columnShown (chain : List Level) (e : Expr) : Option (String × String) :=
  match e with
  | .column schema table name _ =>
    let rec go : List Level → Nat → Option (String × String)
      | [], _ => none
      | lv :: rest, d =>
        match lv.find d schema table name with
        | .column _ _ shown =>
          let declared := (lv.items.toList.findSome? fun it =>
            if table.all (fun t => sameName it.name t || (it.isSchema && isSchemaName t)) then
              if isRowidName name && !(it.columns.any (sameName ·.name name)) then
                if it.rowid.isSome then some "INTEGER" else none
              else (it.columns.find? (sameName ·.name name)).map (·.declared)
            else none).getD ""
          some (shown, declared)
        | .none => go rest (d + 1)
        | _ => none
    go chain 0
  | _ => none

/-- Whether a term reads an aggregate of its own level, outside nested queries. -/
def readsAggregate : Nat → Term → Bool
  | 0, _ => false
  | fuel + 1, t =>
    match t with
    | .aggregate 0 _ => true
    | .negate a | .bitNot a | .not a | .truth a _ _ | .isNull a _ | .cast a _ => readsAggregate fuel a
    | .arith _ a b | .and a b | .or a b | .compare _ a b _ => readsAggregate fuel a || readsAggregate fuel b
    | .between a b c _ _ _ => readsAggregate fuel a || readsAggregate fuel b || readsAggregate fuel c
    | .inList a items _ _ => readsAggregate fuel a || items.any (readsAggregate fuel ·)
    | .call _ args _ => args.any (readsAggregate fuel ·)
    | .caseOf o bs e =>
      o.any (readsAggregate fuel ·) || bs.any (fun (w, r, _) => readsAggregate fuel w || readsAggregate fuel r) ||
        e.any (readsAggregate fuel ·)
    | _ => false

/-- What a resolved query gives the query around it: its plan; its columns
as a FROM item sees them; the columns of a table made from it; the names a
view takes from it; the names its result shows; and the typings of the
result columns of its last simple query (which a subquery compares by). -/
structure Resolved where
  plan : Plan
  columns : Array OutputColumn
  tableColumns : Array OutputColumn
  viewNames : Array String
  display : Array String
  last : Array Typing
  deriving Inhabited

/-- A resolved simple query: its plan, the typings and namings of its
result columns, the kinds of the further rows of a VALUES list, and, for
matching the ORDER BY of a compound, its level and result terms. -/
structure CoreOut where
  plan : Plan
  typings : Array Typing
  namings : Array Naming
  moreKinds : List (Array Nat) := []
  level : Level := {}
  terms : Array Term := #[]
  isValues : Bool := false
  deriving Inhabited

/-- The kinds of the columns of each row a simple query stands for. -/
def CoreOut.kindRows (c : CoreOut) : List (Array Nat) := c.namings.map (·.kinds) :: c.moreKinds

/-- The affinity of a column of a query from its left-most simple query
(`default` when that has none), made blob when a later one may give a
value of another class. -/
def compoundAffinity (default : Affinity) (cores : List CoreOut) (i : Nat) : Affinity :=
  match cores with
  | [] => default
  | c :: rest =>
    let aff := match c.typings[i]? with
      | some ty => if ty.affinity == .none then default else ty.affinity
      | none => default
    let others := c.moreKinds ++ rest.flatMap (·.kindRows)
    if others.isEmpty || aff.rank < 2 then aff
    else
      let m := others.foldl (fun m row => m ||| row.getD i 7) 0
      if aff == .text && m &&& 1 != 0 then .blob
      else if aff.isNumeric && m &&& 2 != 0 then .blob
      else aff

/-- The collation a compound compares a column by: that of the left-most
simple query that has one. -/
def compoundCollation (cores : List CoreOut) (i : Nat) : Collation :=
  firstCollation (cores.filterMap (·.typings[i]?))

/-- What a query gives the query around it, from its simple queries. -/
def resolvedOf (cores : List CoreOut) (plan : Plan) : Resolved :=
  let lead := cores.headD default
  let n := lead.typings.size
  let idx := List.range n
  let naming (i : Nat) : Naming := lead.namings[i]?.getD {}
  let subNames := (uniqueNames (idx.map fun i => (naming i).asSubquery i)).toArray
  let viewNames := (uniqueNames (idx.map fun i => (naming i).asView i)).toArray
  let display := (idx.map fun i => (naming i).display i).toArray
  let column (default : Affinity) (names : Array String) (i : Nat) : OutputColumn :=
    let ty := lead.typings[i]?.getD {}
    let aff := compoundAffinity default cores i
    let declared := match (naming i).declared with
      | some d => if d != "" && affinityOfType d == aff then d else standardType aff
      | none => standardType aff
    { name := names[i]?.getD "", affinity := aff, collation := ty.collation.getD .binary,
      explicitCollation := ty.explicit, declared }
  { plan,
    columns := (idx.map (column .none subNames)).toArray,
    tableColumns := (idx.map (column .blob viewNames)).toArray,
    viewNames, display,
    last := (cores.getLast?.map (·.typings)).getD #[] }

/-- The rows of the body of a common table expression that read it: the
simple queries of its compound whose FROM names it. -/
def fromNames (name : String) : Nat → FromClause → Bool
  | 0, _ => false
  | fuel + 1, .mk first _ joins =>
    let item : FromItem → Bool
      | .table none n _ => sameName n name
      | .nested f _ => fromNames name fuel f
      | _ => false
    item first || joins.any (fun | .mk _ _ it _ => item it)

/-- Whether a simple query reads a table of the name in its FROM. -/
def coreReads (name : String) : Core → Bool
  | .select _ _ (some f) _ _ _ _ => fromNames name 64 f
  | _ => false

/-- The common table expressions of a WITH, in scope for what follows. -/
def withDefs (recursive : Bool) (defs : List TableExpr) : List TableExprDef :=
  defs.map fun | .mk name columns _ q => { name, columns, query := q, recursiveWith := recursive }

/-- The query `SELECT * FROM t`, which `x IN t` stands for. -/
def tableQuery (table : String) : Query :=
  .mk false [] (.select false [.all] (some (.mk (.table none table none) .none [])) none [] none []) [] [] none none

/-- A result column after `*` is expanded: a table column read directly, or
an expression with its alias and text. -/
inductive Entry where
  | direct (t : Term) (ty : Typing) (name : String) (declared : String)
  | expr (e : Expr) (aliasName : Option String) (text : String)
  deriving Inhabited

/-- The columns of an item that `*` gives: all but those it shares through
USING with an item to its left. -/
def Item.starEntries (it : Item) (first : Bool) : List Entry :=
  (List.range it.columns.size).filterMap fun j =>
    let col := it.columns[j]!
    if col.hidden then none
    else if !first && it.shared.any (sameName · col.name) then none
    else
      let (t, ty) := it.columnAt 0 j
      some (.direct t ty col.name col.declared)

/-- Expands `*` and `t.*` in a result list. -/
def expandColumns (items : Array Item) : List ResultColumn → Except String (List Entry)
  | [] => .ok []
  | c :: rest => do
    let here ← match c with
      | .all =>
        if items.isEmpty then .error "no tables specified"
        else .ok ((List.range items.size).flatMap fun i => items[i]!.starEntries (i == 0))
      | .allOf t =>
        match items.toList.filter (fun it => sameName it.name t) with
        | [] => .error ("no such table: " ++ t)
        | its => .ok (its.flatMap (·.starEntries true))
      | .expr e aliasName text => .ok [.expr e aliasName text]
    let more ← expandColumns items rest
    .ok (here ++ more)

/-- A join waiting for its ON clause: the operator, source, width, the
condition of its USING columns, and the ON clause. -/
structure PendingJoin where
  kind : JoinKind
  source : Source
  width : Nat
  usingCondition : Option Term := none
  onClause : Option Expr := none
  /-- the arguments of a table-valued function -/
  arguments : List Expr := []

/-- The arguments a FROM item passes to a table-valued function. -/
def functionArguments : FromItem → List Expr
  | .function _ args _ => args
  | _ => []

/-- The conjunction of terms. -/
def conjunction : List Term → Option Term
  | [] => none
  | t :: rest => some (rest.foldl .and t)

/-- A resolved result column: its term, typing, naming, and whether it holds
an aggregate or a window function. -/
structure ResultCol where
  term : Term
  typing : Typing
  naming : Naming
  aggregate : Bool := false
  window : Bool := false
  deriving Inhabited

/-- The index of the result column an ORDER BY name is the alias of. -/
def aliasIndex (results : Array ResultCol) : Expr → Option Nat
  | .column none none n _ => results.findIdx? fun r => r.naming.aliasName.any (sameName · n)
  | _ => none

/-- Rewrites the error of a view's query that names a table without its
schema, as the stored view names it. -/
def qualifyMissing (e : SqlError) : SqlError :=
  let pre := "no such table: "
  if e.message.startsWith pre then
    let rest := (e.message.drop pre.length).toString
    if rest.contains '.' then e else { e with message := pre ++ "main." ++ rest }
  else e

/-- Looks a name up level by level, the innermost first. -/
def findIn (cx : Ctx) (schema table : Option String) (name : String) :
    List Level → Nat → R (Option (Term × Typing))
  | [], _ => pure none
  | lv :: rest, d =>
    match lv.find d schema table name with
    | .column t ty _ => do
      markLevel (cx.chain.length - 1 - d)
      pure (some (t, ty))
    | .aliasName a => do
      if d == 0 && a.aggregate && !cx.allowAggregates then
        failWith ("misuse of aliased aggregate " ++ a.name)
      if a.window && (d != 0 || !cx.allowWindows) then
        failWith ("misuse of aliased window function " ++ a.name)
      markLevel (cx.chain.length - 1 - d)
      pure (some (if d == 0 then a.term else .outer d a.term, a.typing))
    | .ambiguous => failWith ("ambiguous column name: " ++ missingName schema table name)
    | .none => findIn cx schema table name rest (d + 1)


/-- Resolves a name. -/
def columnRef (cx : Ctx) (schema table : Option String) (name : String) (quoted : Bool) :
    R (Term × Typing) := do
  match ← findIn cx schema table name cx.chain 0 with
  | some r => pure r
  | none =>
    if table.isNone && quoted then pure (.value (.ofString name), {})
    else if table.isNone && isTruthName name then
      pure (.value (.integer (if name.toLower == "true" then 1 else 0)), {})
    else failWith ("no such column: " ++ missingName schema table name)

/-- The number of result columns a simple query writes. -/
def coreWidth : Core → Nat
  | .select _ columns _ _ _ _ _ => columns.length
  | .values rows => (rows.headD []).length

/-- How many values an expression gives, as written: the items of a row,
the result columns of a subquery's last simple query (a `*` counting as
one), else one. -/
def vectorSize : Expr → Nat
  | .row items => items.length
  | .subquery (.mk _ _ first rest _ _ _) => coreWidth ((rest.getLast?.map (·.2)).getD first)
  | _ => 1

mutual

/-- Resolves an expression. -/
def expr : Nat → Ctx → Expr → R (Term × Typing)
  | 0, _, _ => failWith "Expression tree is too large (maximum depth 1000)"
  | fuel + 1, cx, e =>
    match e with
    | .literal v => pure (.value v, {})
    | .number t isFloat => numberTerm t isFloat false
    | .param i => pure (.param i, {})
    | .column schema table name quoted => columnRef cx schema table name quoted
    | .unary .neg (.number t isFloat) => numberTerm t isFloat true
    | .unary op x => do
      let (t, ty) ← expr fuel cx x
      match op with
      | .neg => pure (.negate t, combined [ty])
      | .pos => pure (t, { ty with affinity := .none })
      | .not => pure (.not t, combined [ty])
      | .bitNot => pure (.bitNot t, combined [ty])
    | .binary op a b =>
      if op.isComparison && (vectorSize a != 1 || vectorSize b != 1) then
        -- rows compare item by item, and must have as many items
        if vectorSize a != vectorSize b then failWith "row value misused"
        else do
          let ls ← vector fuel cx a
          let rs ← vector fuel cx b
          if ls.length != rs.length then
            failWith ("sub-select returns " ++ toString (max ls.length rs.length) ++ " columns - expected " ++
              toString (min ls.length rs.length))
          let rules := (ls.zip rs).map fun (l, r) => ruleOf l.2 r.2
          pure (.compareRows (comparisonOf op) (ls.map (·.1)) (rs.map (·.1)) rules,
            combined (ls.map (·.2) ++ rs.map (·.2)))
      else scalarBinary fuel cx op a b
    | .truth x value negated => do
      let (t, ty) ← expr fuel cx x
      pure (.truth t value negated, combined [ty])
    | .isNull x negated => do
      let (t, ty) ← expr fuel cx x
      pure (.isNull t negated, combined [ty])
    | .between x lo hi negated => do
      let (tx, tyx) ← expr fuel cx x
      let (tl, tyl) ← expr fuel cx lo
      let (th, tyh) ← expr fuel cx hi
      pure (.between tx tl th (ruleOf tyx tyl) (ruleOf tyx tyh) negated, combined [tyx, tyl, tyh])
    | .inList _ [] negated => pure (.value (.integer (if negated then 1 else 0)), {})
    | .inList x items negated => do
      let isRow := match x with | .row _ => true | _ => false
      if isRow then failWith "row value misused"
      match items with
      | [item] =>
        if isConstant fuel item then do
          let (tx, tyx) ← expr fuel cx x
          let (ti, tyi) ← expr fuel cx item
          let tyi := { tyi with affinity := .none }
          let c := Term.compare .eq tx ti (ruleOf tyx tyi)
          pure (if negated then .not c else c, combined [tyx, tyi])
        else inList fuel cx x items negated
      | _ => inList fuel cx x items negated
    | .inQuery x q negated => do
      let (r, once) ← subqueryOnce cx.chain.length (query fuel cx.chain cx.ctes q)
      let lhs ← match x with
        | .row xs => exprs fuel cx xs
        | _ => do
          let one ← expr fuel cx x
          pure [one]
      if r.columns.size != lhs.length then
        failWith ("sub-select returns " ++ toString r.columns.size ++ " columns - expected " ++
          toString lhs.length)
      let rules := (List.range lhs.length).map fun i => ruleOf (lhs[i]!).2 (r.last[i]?.getD default)
      pure (.inQuery (lhs.map (·.1)) r.plan rules negated once, combined (lhs.map (·.2)))
    | .inTable x table negated => expr fuel cx (.inQuery x (tableQuery table) negated)
    | .pattern op x pat escape negated => do
      let (tp, typ) ← expr fuel cx pat
      let (tx, tyx) ← expr fuel cx x
      let esc ← match escape with
        | some z => do
          let r ← expr fuel cx z
          pure [r]
        | none => pure []
      let tys := [typ, tyx] ++ esc.map (·.2)
      let name ← match op with
        | .like => pure "like"
        | .glob => pure "glob"
        | .regexp => do note "no such function: REGEXP"; pure "regexp"
        | .match => do note "no such function: MATCH"; pure "match"
      let t := Term.call name ([tp, tx] ++ esc.map (·.1)) .binary
      pure (if negated then .not t else t, combined tys)
    | .collate x c => do
      let (t, ty) ← expr fuel cx x
      let coll ← collationOf c
      pure (t, { ty with collation := some coll, explicit := true })
    | .cast x typeName => do
      let (t, ty) ← expr fuel cx x
      let a := affinityOfType typeName
      pure (.cast t a, { ty with affinity := a })
    | .caseOf operand branches otherwise => do
      let op ← match operand with
        | some o => do
          let r ← expr fuel cx o
          pure (some r)
        | none => pure none
      let bs ← caseBranches fuel cx (op.map (·.2)) branches
      let el ← match otherwise with
        | some o => do
          let r ← expr fuel cx o
          pure (some r)
        | none => pure none
      let tys := (op.map (·.2)).toList ++ bs.flatMap (·.2) ++ (el.map (·.2)).toList
      pure (.caseOf (op.map (·.1)) (bs.map (·.1)) (el.map (·.1)), combined tys)
    | .call name args distinct _ orderBy filter overClause =>
      callTerm fuel cx name args distinct orderBy filter overClause
    | .subquery q => do
      let (r, once) ← subqueryOnce cx.chain.length (query fuel cx.chain cx.ctes q)
      if r.columns.size != 1 then
        failWith ("sub-select returns " ++ toString r.columns.size ++ " columns - expected 1")
      pure (.scalar r.plan 0 once, { affinity := (r.last[0]?.getD default).affinity })
    | .exists q => do
      let (r, once) ← subqueryOnce cx.chain.length (query fuel cx.chain cx.ctes q)
      pure (.exists r.plan once, {})
    | .row _ => failWith "row value misused"
    | .raise action message =>
      -- only a trigger's body, which reads the rows `new` and `old`, may raise
      if cx.chain.any (·.items.any (·.qualifiedOnly)) then pure (.raise action (message.getD ""), {})
      else failWith "RAISE() may only be used within a trigger-program"

/-- Resolves `x IN (list)`: the items are compared by the left operand's
affinity and collation. -/
def inList : Nat → Ctx → Expr → List Expr → Bool → R (Term × Typing)
  | 0, _, _, _, _ => failWith "Expression tree is too large (maximum depth 1000)"
  | fuel + 1, cx, x, items, negated => do
    let (tx, tyx) ← expr fuel cx x
    let ts ← exprs fuel cx items
    let rule : CompareRule := { affinity := tyx.affinity, collation := tyx.collation.getD .binary }
    pure (.inList tx (ts.map (·.1)) rule negated, combined (tyx :: ts.map (·.2)))

/-- Resolves a list of expressions in order. -/
def exprs : Nat → Ctx → List Expr → R (List (Term × Typing))
  | 0, _, _ => failWith "Expression tree is too large (maximum depth 1000)"
  | _, _, [] => pure []
  | fuel + 1, cx, e :: rest => do
    let r ← expr fuel cx e
    let more ← exprs fuel cx rest
    pure (r :: more)

/-- Resolves a binary operator on two single values. -/
def scalarBinary : Nat → Ctx → BinaryOp → Expr → Expr → R (Term × Typing)
  | 0, _, _, _, _ => failWith "Expression tree is too large (maximum depth 1000)"
  | fuel + 1, cx, op, a, b => do
    -- `x IS TRUE` and the like, when the word names no column
    let truthWord : Option (String × Bool) :=
      if op == .is || op == .isNot then
        match skipCollate fuel b with
        | .column none none n false => if isTruthName n then some (n, n.toLower == "true") else none
        | _ => none
      else none
    let asTruth ← match truthWord with
      | some (n, _) => do
        let found ← findIn cx none none n cx.chain 0
        pure found.isNone
      | none => pure false
    if asTruth then
      let (ta, tya) ← expr fuel cx a
      return (.truth ta ((truthWord.map (·.2)).getD false) (op == .isNot), combined [tya])
    let (ta, tya) ← expr fuel cx a
    let (tb, tyb) ← expr fuel cx b
    let ty := combined [tya, tyb]
    if op.isComparison then pure (.compare (comparisonOf op) ta tb (ruleOf tya tyb), ty)
    else match op with
      | .and => pure (.and ta tb, ty)
      | .or => pure (.or ta tb, ty)
      | _ => pure (.arith op ta tb, ty)

/-- Resolves the values of a row, or of a subquery's first row (one for
each column it writes), or the one value of any other expression. -/
def vector : Nat → Ctx → Expr → R (List (Term × Typing))
  | 0, _, _ => failWith "Expression tree is too large (maximum depth 1000)"
  | fuel + 1, cx, e =>
    match e with
    | .row items => exprs fuel cx items
    | .subquery q => do
      let (r, once) ← subqueryOnce cx.chain.length (query fuel cx.chain cx.ctes q)
      pure ((List.range r.columns.size).map fun i =>
        (.scalar r.plan i once, { affinity := (r.last[i]?.getD default).affinity }))
    | e => do
      let r ← expr fuel cx e
      pure [r]

/-- Resolves the branches of CASE, each WHEN compared with the operand by
their two typings. -/
def caseBranches : Nat → Ctx → Option Typing → List (Expr × Expr) →
    R (List ((Term × Term × CompareRule) × List Typing))
  | 0, _, _, _ => failWith "Expression tree is too large (maximum depth 1000)"
  | _, _, _, [] => pure []
  | fuel + 1, cx, op, (w, t) :: rest => do
    let (tw, tyw) ← expr fuel cx w
    let (tt, tyt) ← expr fuel cx t
    let rule : CompareRule := match op with
      | some tyo => ruleOf tyo tyw
      | none => {}
    let more ← caseBranches fuel cx op rest
    pure (((tw, tt, rule), [tyw, tyt]) :: more)

/-- Resolves the terms of an ORDER BY inside a call or a window. -/
def sortKeys : Nat → Ctx → List OrderTerm → R (List SortKey)
  | 0, _, _ => failWith "Expression tree is too large (maximum depth 1000)"
  | _, _, [] => pure []
  | fuel + 1, cx, (.mk e desc nullsFirst) :: rest => do
    let (t, ty) ← expr fuel cx e
    let more ← sortKeys fuel cx rest
    pure (.mk t desc (nullsFirst.getD (!desc)) (ty.collation.getD .binary) :: more)

/-- Resolves a function call: a scalar function, an aggregate (which joins
the level whose columns it reads), or a window function. Misuse is noted
and the arguments are still resolved. -/
def callTerm : Nat → Ctx → String → List Expr → Bool → List OrderTerm → Option Expr → Option Over →
    R (Term × Typing)
  | 0, _, _, _, _, _, _, _ => failWith "Expression tree is too large (maximum depth 1000)"
  | fuel + 1, cx, name, args, distinct, orderBy, filter, overClause => do
    let lookup := lookupFunction name args.length
    let info? : Option FunctionInfo := match lookup with
      | .found i => some i
      | _ => none
    let hasOver := overClause.isSome
    let windowOnly := info?.any (·.kind == .window)
    let mut isAgg := info?.any (·.kind != .scalar)
    match info? with
    | some info =>
      if info.kind == .scalar && hasOver then
        note (name ++ "() may not be used as a window function")
      else if isAgg && (!cx.allowAggregates || (windowOnly && !hasOver) || (hasOver && !cx.allowWindows)) then
        note ("misuse of " ++ (if windowOnly || hasOver then "window" else "aggregate") ++
          " function " ++ name ++ "()")
        isAgg := false
      else if !isAgg && filter.isSome then
        note ("FILTER may not be used with non-aggregate " ++ name ++ "()")
      else if !isAgg && !orderBy.isEmpty then
        note ("ORDER BY may not be used with non-aggregate " ++ name ++ "()")
    | none =>
      match lookup with
      | .wrongCount => note ("wrong number of arguments to function " ++ name ++ "()")
      | _ => note ("no such function: " ++ name)
    let argCx : Ctx :=
      if isAgg then { cx with allowWindows := false, allowAggregates := hasOver && cx.allowAggregates }
      else cx
    let saved := (← get).deepest
    modify fun s => { s with deepest := none }
    let resolved ← exprs fuel argCx args
    let terms := resolved.map (·.1)
    let tys := resolved.map (·.2)
    let lower := name.toLower
    match info? with
    | none =>
      modify fun s => { s with deepest := max saved s.deepest }
      pure (.value .null, combined tys)
    | some info =>
      if !isAgg then
        modify fun s => { s with deepest := max saved s.deepest }
        pure (.call lower terms (firstCollation tys), combined tys)
      else
        let keys ← sortKeys fuel argCx orderBy
        match overClause with
        | some w =>
          let index ← if (← get).pending.isSome then pure none
            else windowTerm fuel argCx info terms filter w
          modify fun s => { s with deepest := max saved s.deepest }
          match index with
          | some i => pure (.window i, combined tys)
          | none => pure (.value .null, combined tys)
        | none =>
          let filterTerm ← match filter with
            | some f => do
              let r ← expr fuel argCx f
              pure (some r.1)
            | none => pure none
          let deepest := (← get).deepest
          let here := cx.chain.length - 1
          let depth := match deepest with
            | some m => if m < here then here - m else 0
            | none => 0
          modify fun s => { s with deepest := max saved deepest }
          let lift (t : Term) : Term := if depth == 0 then t else .lifted depth t
          let liftKey : SortKey → SortKey
            | .mk t d n c => .mk (lift t) d n c
          let call := AggregateCall.mk lower (terms.map lift) distinct (filterTerm.map lift)
            (keys.map liftKey) (firstCollation tys)
          let index ← addAggregate depth name call
          pure (.aggregate depth index, combined tys)

/-- Resolves the window of a window function call and adds the call to the
level; none when the window is faulty (the error is noted). -/
def windowTerm : Nat → Ctx → FunctionInfo → List Term → Option Expr → Over → R (Option Nat)
  | 0, _, _, _, _, _ => failWith "Expression tree is too large (maximum depth 1000)"
  | fuel + 1, cx, info, args, filter, overClause => do
    let parts : Except String (List Expr × List OrderTerm × Option Frame) :=
      match overClause with
      | .named w => namedWindow cx.windowDefs w
      | .spec (.mk none partition order frame) => .ok (partition, order, frame)
      | .spec (.mk (some b) partition order frame) =>
        match namedWindow cx.windowDefs b with
        | .error m => .error m
        | .ok (bp, bo, bf) =>
          if !partition.isEmpty then .error ("cannot override PARTITION clause of window: " ++ b)
          else if !bo.isEmpty && !order.isEmpty then
            .error ("cannot override ORDER BY clause of window: " ++ b)
          else if bf.isSome then .error ("cannot override frame specification of window: " ++ b)
          else .ok (bp, if order.isEmpty then bo else order, frame)
    match parts with
    | .error m => do note m; pure none
    | .ok (partition, order, frame) =>
      let (unit, start, stop, exclusion) : FrameUnit × FrameBound × FrameBound × FrameExclusion :=
        match frame with
        | some (.mk u s e x) => (u, s, e, x)
        | none => (.range, .unboundedPreceding, .currentRow, .noOthers)
      if unit == .range && (hasOffset start || hasOffset stop) && order.length != 1 then do
        note "RANGE with offset PRECEDING/FOLLOWING requires one ORDER BY expression"
        pure none
      else if info.kind == .window && filter.isSome then do
        note "FILTER clause may only be used with aggregate window functions"
        pure none
      else do
        let parts ← exprs fuel cx partition
        let keys ← sortKeys fuel cx order
        let filterTerm ← match filter with
          | some f => do
            let r ← expr fuel cx f
            pure (some r.1)
          | none => pure none
        let (unit, startB, stopB, exclusion) ← match builtinFrame info.name with
          | some (u, s, e) => pure (u, s, e, FrameExclusion.noOthers)
          | none => do
            let s ← frameBound fuel start
            let e ← frameBound fuel stop
            pure (unit, s, e, exclusion)
        let call := WindowCall.mk info.name args filterTerm
          (parts.map fun (t, ty) => (t, ty.collation.getD .binary)) keys unit startB stopB exclusion
        let index ← addWindow call
        pure (some index)

/-- Resolves a frame bound; an offset that is not constant is NULL. -/
def frameBound : Nat → FrameBound → R Bound
  | 0, _ => failWith "Expression tree is too large (maximum depth 1000)"
  | fuel + 1, b =>
    let offset (e : Expr) : R Term :=
      if isConstant fuel e then do
        let r ← expr fuel { chain := [] } e
        pure r.1
      else pure (.value .null)
    match b with
    | .unboundedPreceding => pure .unboundedPreceding
    | .preceding e => do
      let t ← offset e
      pure (.preceding t)
    | .currentRow => pure .currentRow
    | .following e => do
      let t ← offset e
      pure (.following t)
    | .unboundedFollowing => pure .unboundedFollowing

/-- Resolves a query; `outer` are the levels around it. -/
def query : Nat → List Level → List TableExprDef → Query → R Resolved
  | 0, _, _, _ => failWith "Expression tree is too large (maximum depth 1000)"
  | fuel + 1, outer, ctes, .mk recursive withList first rest orderBy limit offset => do
    let ctes := withDefs recursive withList ++ ctes
    let lim ← limitTerm fuel ctes limit
    let off ← limitTerm fuel ctes offset
    if rest.isEmpty then
      let co ← core fuel outer ctes first orderBy
      pure (resolvedOf [co] (withLimit co.plan lim off))
    else
      let ops := rest.map (·.1)
      let cores ← compoundCores fuel outer ctes ((first :: rest.map (·.2)).zip (ops.map some ++ [none]))
      let keys ← compoundOrder fuel cores orderBy
      let collations := (List.range ((cores.headD default).typings.size)).map (compoundCollation cores)
      let plan := match cores with
        | c :: more =>
          let step (acc : Plan × List CoreOut) (x : CompoundOp × CoreOut) : Plan × List CoreOut :=
            let seen := acc.2 ++ [x.2]
            let colls := (List.range ((cores.headD default).typings.size)).map (compoundCollation seen)
            (.compound x.1 acc.1 x.2.plan colls [] none none, seen)
          ((ops.zip more).foldl step (c.plan, [c])).1
        | [] => .values []
      let plan := match plan with
        | .compound op l r _ _ _ _ => .compound op l r collations keys lim off
        | p => p
      pure (resolvedOf cores plan)

/-- Resolves LIMIT or OFFSET, which see no names. -/
def limitTerm : Nat → List TableExprDef → Option Expr → R (Option Term)
  | 0, _, _ => failWith "Expression tree is too large (maximum depth 1000)"
  | _, _, none => pure none
  | fuel + 1, ctes, some e => do
    let (t, _) ← expr fuel { chain := [], ctes } e
    settle
    pure (some t)

/-- Resolves the simple queries of a compound from right to left, checking
that each has as many columns as the one to its right. Each comes with the
operator to its right. -/
def compoundCores : Nat → List Level → List TableExprDef → List (Core × Option CompoundOp) →
    R (List CoreOut)
  | 0, _, _, _ => failWith "Expression tree is too large (maximum depth 1000)"
  | _, _, _, [] => pure []
  | fuel + 1, outer, ctes, (c, op) :: rest => do
    let right ← compoundCores fuel outer ctes rest
    let here ← core fuel outer ctes c []
    match right, op with
    | r :: _, some o =>
      if r.typings.size != here.typings.size then
        if r.isValues then failWith "all VALUES must have the same number of terms"
        else failWith ("SELECTs to the left and right of " ++ operatorWord o ++
          " do not have the same number of result columns")
    | _, _ => pure ()
    pure (here :: right)

/-- Matches the ORDER BY of a compound with its result columns: by number,
else by the alias or expression of a column of the left-most simple query
that has one. -/
def compoundOrder : Nat → List CoreOut → List OrderTerm → R (List (Nat × Bool × Bool × Collation))
  | 0, _, _ => failWith "Expression tree is too large (maximum depth 1000)"
  | fuel + 1, cores, terms => do
    let n := (cores.headD default).typings.size
    let indexed := (List.range terms.length).zip terms
    for (i, t) in indexed do
      match ordinalTerm? (skipCollate fuel t.expr) with
      | some k =>
        if k < 1 || k > n then
          failWith (ordinal (i + 1) ++ " ORDER BY term out of range - should be between 1 and " ++
            toString n)
      | none => pure ()
    let matchIn (e : Expr) (c : CoreOut) : Option Nat :=
      match c.namings.findIdx? (fun nm => match e with
          | .column none none name _ => nm.aliasName.any (sameName · name)
          | _ => false) with
      | some j => some j
      | none =>
        match e with
        | .column schema table name _ =>
          match c.level.find 0 schema table name with
          | .column (.column d s) _ _ =>
            c.terms.findIdx? fun t => match t with
              | .column d' s' => d == d' && s == s'
              | _ => false
          | _ => none
        | _ => none
    let mut keys : List (Nat × Bool × Bool × Collation) := []
    for (i, t) in indexed do
      let e2 := skipCollate fuel t.expr
      let col ← match ordinalTerm? e2 with
        | some k => pure (k.toNat - 1)
        | none =>
          match cores.findSome? (matchIn e2) with
          | some j => pure j
          | none =>
            failWith (ordinal (i + 1) ++ " ORDER BY term does not match any column in the result set")
      let coll ← match t.expr with
        | .collate _ c => collationOf c
        | _ => pure (compoundCollation cores col)
      keys := keys ++ [(col, t.descending, t.nullsFirst.getD (!t.descending), coll)]
    pure keys

/-- Resolves the rows of a VALUES list. -/
def valuesRows : Nat → Ctx → List (List Expr) → R (List (List (Term × Typing)))
  | 0, _, _ => failWith "Expression tree is too large (maximum depth 1000)"
  | _, _, [] => pure []
  | fuel + 1, cx, row :: rest => do
    let here ← resultList fuel cx row
    let more ← valuesRows fuel cx rest
    pure (here :: more)

/-- Resolves a list of result expressions, stopping after the first one
that has an error. -/
def resultList : Nat → Ctx → List Expr → R (List (Term × Typing))
  | 0, _, _ => failWith "Expression tree is too large (maximum depth 1000)"
  | _, _, [] => pure []
  | fuel + 1, cx, e :: rest => do
    let r ← expr fuel cx e
    settle
    let more ← resultList fuel cx rest
    pure (r :: more)

/-- Resolves the result columns of a simple query. -/
def resultColumns : Nat → Ctx → List Entry → R (List ResultCol)
  | 0, _, _ => failWith "Expression tree is too large (maximum depth 1000)"
  | _, _, [] => pure []
  | fuel + 1, cx, entry :: rest => do
    let here ← match entry with
      | .direct t ty name declared =>
        let naming : Naming :=
          { aliasName := some name, span := name, word := some name, direct := some name,
            through := some name, kinds := kindsOf fuel (.column none none name false) ty,
            declared := some declared }
        pure ({ term := t, typing := ty, naming } : ResultCol)
      | .expr e aliasName text => do
        let aggBefore ← aggregateCount
        let winBefore ← windowCount
        let (t, ty) ← expr fuel cx e
        settle
        let aggAfter ← aggregateCount
        let winAfter ← windowCount
        let inner := skipCollate fuel e
        let direct := columnShown cx.chain e
        let naming : Naming :=
          { aliasName, span := text, word := wordOf inner, direct := direct.map (·.1),
            through := (columnShown cx.chain inner).map (·.1), kinds := kindsOf fuel e ty,
            declared := direct.map (·.2) }
        pure ({ term := t, typing := ty, naming, aggregate := aggAfter > aggBefore,
                window := winAfter > winBefore } : ResultCol)
    let more ← resultColumns fuel cx rest
    pure (here :: more)

/-- Resolves the ORDER BY of a simple query: a result alias, a column number,
or an expression. -/
def orderTerms : Nat → Ctx → Array ResultCol → List (Nat × OrderTerm) → R (List SortKey)
  | 0, _, _, _ => failWith "Expression tree is too large (maximum depth 1000)"
  | _, _, _, [] => pure []
  | fuel + 1, cx, results, (i, .mk e desc nullsFirst) :: rest => do
    let e2 := skipCollate fuel e
    let top ← match e with
      | .collate _ c => do
        let coll ← collationOf c
        pure (some coll)
      | _ => pure none
    let nullsFirst := nullsFirst.getD (!desc)
    let fromResult (r : ResultCol) : SortKey :=
      .mk r.term desc nullsFirst (top.getD (r.typing.collation.getD .binary))
    let key ← match aliasIndex results e2 with
      | some j => pure (fromResult results[j]!)
      | none =>
        match ordinalTerm? e2 with
        | some k =>
          if k < 1 || k > results.size then
            failWith (ordinal (i + 1) ++ " ORDER BY term out of range - should be between 1 and " ++
              toString results.size)
          else pure (fromResult results[k.toNat - 1]!)
        | none => do
          let (t, ty) ← expr fuel cx e
          settle
          pure (.mk t desc nullsFirst (ty.collation.getD .binary))
    let more ← orderTerms fuel cx results rest
    pure (key :: more)

/-- Resolves GROUP BY: a column number or an expression; each with its
collation and whether it reads an aggregate. -/
def groupTerms : Nat → Ctx → Array ResultCol → List (Nat × Expr) → R (List (Term × Collation × Bool))
  | 0, _, _, _ => failWith "Expression tree is too large (maximum depth 1000)"
  | _, _, _, [] => pure []
  | fuel + 1, cx, results, (i, e) :: rest => do
    let e2 := skipCollate fuel e
    let here ← match ordinalTerm? e2 with
      | some k =>
        if k < 1 || k > results.size then
          failWith (ordinal (i + 1) ++ " GROUP BY term out of range - should be between 1 and " ++
            toString results.size)
        else
          let r := results[k.toNat - 1]!
          pure (r.term, r.typing.collation.getD .binary, r.aggregate)
      | none => do
        let before ← aggregateCount
        let (t, ty) ← expr fuel cx e
        settle
        let after ← aggregateCount
        pure (t, ty.collation.getD .binary, after > before || readsAggregate fuel t)
    let more ← groupTerms fuel cx results rest
    pure (here :: more)

/-- Resolves the ON clauses of the joins. -/
def onClauses : Nat → Ctx → List PendingJoin → R (List Joined)
  | 0, _, _ => failWith "Expression tree is too large (maximum depth 1000)"
  | _, _, [] => pure []
  | fuel + 1, cx, pj :: rest => do
    let on ← match pj.onClause with
      | some e => do
        let (t, _) ← expr fuel cx e
        settle
        pure (some t)
      | none => pure none
    let condition := conjunction (pj.usingCondition.toList ++ on.toList)
    let source ← match pj.source with
      | .function name _ => do
        let mut terms : Array Term := #[]
        for a in pj.arguments do
          let (t, _) ← expr fuel cx a
          settle
          terms := terms.push t
        pure (Source.function name terms.toList)
      | s => pure s
    let more ← onClauses fuel cx rest
    pure (.mk pj.kind source pj.width condition :: more)

/-- Resolves a simple query, with its ORDER BY when it stands alone. -/
def core : Nat → List Level → List TableExprDef → Core → List OrderTerm → R CoreOut
  | 0, _, _, _, _ => failWith "Expression tree is too large (maximum depth 1000)"
  | fuel + 1, outer, ctes, .values rows, _ => do
    openLevel
    let resolved ← valuesRows fuel { chain := ({} : Level) :: outer, ctes } rows
    let _ ← closeLevel
    let width := (resolved.headD []).length
    if resolved.any (·.length != width) then failWith "all VALUES must have the same number of terms"
    let kindsOfRow (row : List Expr) (rs : List (Term × Typing)) : Array Nat :=
      ((row.zip rs).map fun (e, r) => kindsOf fuel e r.2).toArray
    let kindRows := (rows.zip resolved).map fun (row, rs) => kindsOfRow row rs
    let firstKinds := kindRows.headD #[]
    pure { plan := .values (resolved.map (·.map (·.1))),
           typings := ((resolved.headD []).map (·.2)).toArray,
           namings := firstKinds.map fun k => ({ kinds := k } : Naming),
           moreKinds := kindRows.drop 1, isValues := true }
  | fuel + 1, outer, ctes, .select distinct columns source filter groupBy having windows, orderBy => do
    let (pending, items) ← match source with
      | some f => fromClause fuel outer ctes f
      | none => pure ([], #[])
    let entries ← match expandColumns items columns with
      | .ok es => pure es
      | .error m => failWith m
    openLevel
    let level : Level := { items }
    let cx : Ctx := { chain := level :: outer, ctes, allowAggregates := true, allowWindows := true,
                      windowDefs := windows }
    let results := (← resultColumns fuel cx entries).toArray
    let aggregated := !groupBy.isEmpty || (← aggregateCount) > 0
    let aliases := results.filterMap fun r => r.naming.aliasName.map fun n =>
      ({ name := n, term := r.term, typing := r.typing, aggregate := r.aggregate, window := r.window } : Alias)
    let level' : Level := { level with aliases, useAliases := true }
    let cx' : Ctx := { cx with chain := level' :: outer, allowWindows := false, allowAggregates := aggregated }
    let havingTerm ← match having with
      | some h =>
        if !aggregated then failWith "HAVING clause on a non-aggregate query"
        else do
          let (t, _) ← expr fuel cx' h
          settle
          pure (some t)
      | none => pure none
    let whereBefore ← aggregateCount
    let filterTerm ← match filter with
      | some w => do
        let (t, _) ← expr fuel { cx' with inWhere := true } w
        settle
        pure (some t)
      | none => pure none
    let joins ← onClauses fuel { cx' with inWhere := true } pending
    let whereAfter ← aggregateCount
    let orderCx : Ctx := { chain := [level'], ctes, allowAggregates := true, allowWindows := true,
                           windowDefs := windows }
    let keys ← orderTerms fuel orderCx results ((List.range orderBy.length).zip orderBy)
    let groups ← groupTerms fuel { orderCx with allowWindows := false } results
      ((List.range groupBy.length).zip groupBy)
    if groups.any (·.2.2) then failWith "aggregate functions are not allowed in the GROUP BY clause"
    let st ← closeLevel
    if whereAfter > whereBefore then
      failWith ("misuse of aggregate: " ++ (st.aggregateNames[whereBefore]?.getD "") ++ "()")
    if !aggregated && st.aggregates.size > 0 then
      failWith ("misuse of aggregate: " ++ (st.aggregateNames[0]?.getD "") ++ "()")
    let outputs := results.toList.map (·.term)
    let plan := Plan.select joins filterTerm (groups.map fun (t, c, _) => (t, c)) aggregated
      st.aggregates.toList havingTerm st.windows.toList outputs
      (if distinct then some (results.toList.map (·.typing.collation.getD .binary)) else none)
      keys none none
    pure { plan, typings := results.map (·.typing), namings := results.map (·.naming), level := level',
           terms := results.map (·.term) }

/-- Resolves a FROM clause: its joins (their ON clauses still to resolve)
and its items. -/
def fromClause : Nat → List Level → List TableExprDef → FromClause → R (List PendingJoin × Array Item)
  | 0, _, _, _ => failWith "Expression tree is too large (maximum depth 1000)"
  | fuel + 1, outer, ctes, .mk first constraint joins => do
    let (source, columns, rowid, name, isSchema) ← fromItem fuel outer ctes first
    let item : Item := { name, columns, rowid, offset := 0, isSchema }
    let on := match constraint with
      | .on e => some e
      | _ => none
    let pj : PendingJoin := { kind := .inner, source, width := columns.size + 1, onClause := on,
                              arguments := functionArguments first }
    let (pjs, items) ← joinSteps fuel outer ctes joins (#[pj], #[item])
    pure (pjs.toList, items)

/-- Adds the joined items of a FROM clause one by one. -/
def joinSteps : Nat → List Level → List TableExprDef → List JoinStep → Array PendingJoin × Array Item →
    R (Array PendingJoin × Array Item)
  | 0, _, _, _, _ => failWith "Expression tree is too large (maximum depth 1000)"
  | _, _, _, [], acc => pure acc
  | fuel + 1, outer, ctes, (.mk kind natural it constraint) :: rest, (pjs, items) => do
    let (source, columns, rowid, name, isSchema) ← fromItem fuel outer ctes it
    let offset := items.foldl (fun n i => n + i.columns.size + 1) 0
    let onLeft (c : String) : Bool := items.any fun i => i.columns.any fun d => !d.hidden && sameName d.name c
    let shared ← match natural, constraint with
      | true, .none =>
        pure (columns.toList.filterMap fun c => if !c.hidden && onLeft c.name then some c.name else none)
      | true, _ => failWith "a NATURAL join may not have an ON or USING clause"
      | false, .using cs => do
        for c in cs do
          unless columns.any (sameName ·.name c) && onLeft c do
            failWith ("cannot join using column " ++ c ++ " - column not present in both tables")
        pure cs
      | false, _ => pure []
    let item : Item := { name, columns, rowid, offset, shared, kind, isSchema }
    let usingTerms := shared.filterMap fun c => do
      let left ← items.find? fun i => i.columns.any (sameName ·.name c)
      let lj ← left.columns.findIdx? (sameName ·.name c)
      let rj ← columns.findIdx? (sameName ·.name c)
      let (lt, lty) := left.columnAt 0 lj
      let (rt, rty) := item.columnAt 0 rj
      pure (Term.compare .eq lt rt (ruleOf lty rty))
    let on := match constraint with
      | .on e => some e
      | _ => none
    let kind := if kind == .cross then .inner else kind
    let pj : PendingJoin :=
      { kind, source, width := columns.size + 1, usingCondition := conjunction usingTerms, onClause := on,
        arguments := functionArguments it }
    joinSteps fuel outer ctes rest (pjs.push pj, items.push item)

/-- Resolves a FROM item: where its rows come from, its columns, its rowid,
the name it is known by, and whether it is the schema table. -/
def fromItem : Nat → List Level → List TableExprDef → FromItem →
    R (Source × Array OutputColumn × Option (Option Nat) × String × Bool)
  | 0, _, _, _ => failWith "Expression tree is too large (maximum depth 1000)"
  | fuel + 1, outer, ctes, item =>
    match item with
    | .table schema name aliasName => do
      let cte := if schema.isNone then ctes.findIdx? (fun d => sameName d.name name) else none
      match cte with
      | some k => do
        let (source, columns) ← tableExpr fuel outer ctes k
        pure (source, columns, none, aliasName.getD name, false)
      | none =>
        let db ← read
        if isSchemaName name then
          let col (n d : String) (a : Affinity) : OutputColumn := { name := n, affinity := a, declared := d }
          let columns := #[col "type" "text" .text, col "name" "text" .text, col "tbl_name" "text" .text,
                           col "rootpage" "int" .integer, col "sql" "text" .text]
          pure (.schema, columns, some none, aliasName.getD name, true)
        else match db.table? name with
          | some t =>
            let columns := t.columns.map fun c =>
              ({ name := c.name, affinity := c.affinity, collation := c.collation, declared := c.declared } :
                OutputColumn)
            let rowid := if t.withoutRowid then none else some t.rowidColumn
            pure (.table t.name, columns, rowid, aliasName.getD t.name, false)
          | none =>
            match db.view? name with
            | some v => do
              let r ← tryCatch (query fuel [] [] v.query) (fun err => throw (qualifyMissing err))
              let names := match v.columns with
                | some cs => cs.toArray
                | none => r.viewNames
              let columns := r.columns.mapIdx fun i c => { c with name := names[i]?.getD c.name }
              pure (.query r.plan, columns, none, aliasName.getD v.name, false)
            | none =>
              failWith ("no such table: " ++ (match schema with
                | some s => s ++ "."
                | none => "") ++ name)
    | .function name args aliasName => do
      let lname := name.toLower
      match tableFunctionColumns lname with
      | some (visible, hidden) =>
        if args.length > hidden.length then
          failWith ("too many arguments on " ++ lname ++ "() - max " ++ toString hidden.length)
        let col (hide : Bool) (n : String) : OutputColumn :=
          { name := n, hidden := hide, jsonValued := n == "value" && lname.startsWith "json" }
        let columns := (visible.map (col false) ++ hidden.map (col true)).toArray
        pure (.function lname [], columns, some none, aliasName.getD name, false)
      | none => failWith ("no such table: " ++ name)
    | .subquery q aliasName => do
      let r ← query fuel outer ctes q
      pure (.query r.plan, r.columns, none, aliasName.getD "", false)
    | .nested f aliasName => do
      let q : Query := .mk false [] (.select false [.all] (some f) none [] none []) [] [] none none
      let r ← query fuel outer ctes q
      pure (.query r.plan, r.columns, none, aliasName.getD "", false)

/-- Resolves a reference to the common table expression at `k` of `ctes`:
its body, recursive when it reads itself, and its columns. -/
def tableExpr : Nat → List Level → List TableExprDef → Nat → R (Source × Array OutputColumn)
  | 0, _, _, _ => failWith "Expression tree is too large (maximum depth 1000)"
  | fuel + 1, outer, ctes, k => do
    let d := ctes[k]!
    match d.recursive with
    | some (id, columns) => pure (.recursive id, columns)
    | none =>
      if d.busy then failWith ("circular reference: " ++ d.name)
      let busy := ctes.set k { d with busy := true }
      let .mk _ innerWith first rest orderBy limit offset := d.query
      let cores := first :: rest.map (·.2)
      let named (r : Resolved) : R (Array OutputColumn) :=
        match d.columns with
        | some names =>
          if names.length != r.columns.size then
            failWith ("table " ++ d.name ++ " has " ++ toString r.columns.size ++ " values for " ++
              toString names.length ++ " columns")
          else pure (r.columns.mapIdx fun i c => { c with name := names[i]?.getD c.name })
        | none => pure r.columns
      if !(d.recursiveWith && cores.any (coreReads d.name)) then do
        let r ← query fuel outer busy d.query
        let columns ← named r
        pure (.query r.plan, columns)
      else do
        let setupCount := (cores.takeWhile (fun c => !coreReads d.name c)).length
        if setupCount == 0 then failWith ("circular reference: " ++ d.name)
        let bodyCtes := withDefs false innerWith ++ busy
        let setup : Query := .mk false [] first (rest.take (setupCount - 1)) [] none none
        let r0 ← query fuel outer bodyCtes setup
        let columns ← named r0
        let id ← freshId
        let stepCtes := withDefs false innerWith ++ ctes.set k { d with recursive := some (id, columns) }
        match rest.drop (setupCount - 1) with
        | (op, c1) :: more => do
          let r1 ← query fuel outer stepCtes (.mk false [] c1 more [] none none)
          if r1.columns.size != columns.size then
            failWith ("SELECTs to the left and right of " ++ operatorWord op ++
              " do not have the same number of result columns")
          let lim ← limitTerm fuel ctes limit
          let off ← limitTerm fuel ctes offset
          let keys := orderBy.filterMap fun t =>
            match ordinalTerm? (skipCollate fuel t.expr) with
            | some k => if k ≥ 1 then some (k.toNat - 1, t.descending, t.nullsFirst.getD (!t.descending), Collation.binary) else none
            | none =>
              match skipCollate fuel t.expr with
              | .column none _ n _ =>
                (columns.findIdx? (sameName ·.name n)).map fun j =>
                  (j, t.descending, t.nullsFirst.getD (!t.descending), (columns[j]!).collation)
              | _ => none
          let collations := columns.toList.map (·.collation)
          pure (.query (.recursive id r0.plan r1.plan (op == .unionAll) collations keys lim off), columns)
        | [] => failWith ("circular reference: " ++ d.name)

end

/-- Resolves a query against a database. -/
def resolveQuery (db : Database) (q : Query) : Except SqlError Resolved :=
  ((query 100000 [] [] q).run (schemaView db)).run' {}

end ReportExport.Sql.Resolve
