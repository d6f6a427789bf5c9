import ReportExport.Sql.Function.Window
import ReportExport.Sql.Function.DateTime
import ReportExport.Sql.Function.JsonEach
import ReportExport.Sql.Introspect

/-!
# Evaluating plans

A plan runs against a database. Its rows are built by joining the rows of
its FROM items in order (a LEFT join keeps a left row without a match,
padded with NULLs; a RIGHT join adds the right rows no left row matched),
filtered by WHERE, then grouped when the query aggregates: groups come out
in the order of their keys, and the other columns of a group are read from
its first row, or from the row that gave the last `min` or `max` its value.
Window functions are computed over the rows that remain, which then take
the order of the last window. Result rows are made distinct, sorted (a
stable sort, so rows with equal keys keep their order), and cut by OFFSET
and LIMIT.

A compound query without ORDER BY gives UNION ALL rows in order and the rows
of the other operators sorted, as the engine's temporary indexes hold them.

Evaluation reads terms in an environment of frames, one per query level,
innermost first: the level's row, its aggregate results and its window
results.
-/

namespace ReportExport.Sql

open Text

/-- The values a query level sees: its row, its aggregate results, and its
window results. -/
structure Scope where
  row : Array SqlValue := #[]
  aggregates : Array SqlValue := #[]
  windows : Array SqlValue := #[]
  deriving Inhabited

/-- The frames of the levels a term is evaluated in, innermost first. -/
abbrev Env := List Scope

/-- What evaluation reads: the database, the statement's parameters, the
current row of each recursive query being run, and the current moment as a
Julian day in milliseconds. -/
structure EvalContext where
  db : Database
  params : Array SqlValue := #[]
  recursive : List (Nat × Array SqlValue) := []
  now : Int := 210866760000000
  deriving Inhabited

/-- The rows of the queries that read nothing of the rows around them, by
their numbers, once they have run. -/
abbrev OnceRows := List (Nat × Array (Array SqlValue))

/-- What evaluation keeps as it goes: the state of the random generator, and
the rows of the queries that run at most once. -/
structure EvalState where
  random : Nat
  once : OnceRows := []
  deriving Inhabited

/-- Evaluation: reads its context, keeps its state, and fails with an
error. -/
abbrev Eval := ReaderT EvalContext (StateT EvalState (Except SqlError))

/-- The error a function's message makes. -/
def functionError (msg : String) : SqlError :=
  if msg == "string or blob too big" then { code := 18, message := msg } else .general msg

/-- Lifts a function's result into evaluation. -/
def liftFunction (r : Except String SqlValue) : Eval SqlValue :=
  match r with
  | .ok v => pure v
  | .error m => throw (functionError m)

/-- The rows of a table-valued function for its arguments, each led by its
rowid. -/
def functionRows (name : String) (args : List SqlValue) : Eval (Array (Array SqlValue)) := do
  match name with
  | "json_each" | "json_tree" =>
    match jsonTable (name == "json_tree") args with
    | .ok rows => pure rows
    | .error m => throw (.general m)
  | _ => pure ((← read).db.pragmaTableRows (name.drop 7).toString args)

/-- The frame `d` levels out. -/
def scopeAt (env : Env) (d : Nat) : Scope := env.getD d {}

/-- The next 64-bit value of the random generator (xorshift). -/
def nextRandom : Eval Nat := do
  let m : Nat := 18446744073709551616
  let st ← get
  let x := if st.random == 0 then 0x2545f4914f6cdd1d else st.random
  let x := (x ^^^ (x <<< 13)) % m
  let x := x ^^^ (x >>> 7)
  let x := (x ^^^ (x <<< 17)) % m
  set { st with random := x }
  return x

/-- The rows of a query: run now, or, for a query numbered to run once,
kept from its first run. -/
def onceRows (once : Option Nat) (run : Eval (Array (Array SqlValue))) : Eval (Array (Array SqlValue)) := do
  match once with
  | none => run
  | some k =>
    match (← get).once.lookup k with
    | some rows => pure rows
    | none =>
      let rows ← run
      modify fun st => { st with once := (k, rows) :: st.once }
      pure rows

/-- How a term's value carries JSON into a JSON function. -/
def termJsonTag : Term → JsonTag
  | .call n _ _ => jsonTagOf n
  | .arith .extract _ _ => .json
  | .jsonValue _ => .container
  | _ => .plain

/-- Which of the values of terms are JSON text for a JSON function. -/
def jsonFlags (args : List Term) (vs : List SqlValue) : List Bool :=
  (args.zip vs).map fun (a, v) => (termJsonTag a).marks v

/-- A comparison of two rows of values: equal when all pairs are equal,
unequal at the first unequal pair; NULL when a pair is NULL and decides. -/
def compareRowValues (op : Comparison) (rules : List CompareRule) (xs ys : List SqlValue) : SqlValue :=
  let rec go : List CompareRule → List SqlValue → List SqlValue → Option Ordering
    | r :: rs, x :: xs, y :: ys =>
      match compareUnder r x y with
      | some .eq => go rs xs ys
      | some o => some o
      | none => none
    | _, _, _ => some .eq
  match op with
  | .eq | .ne =>
    -- any unequal pair decides even past a NULL
    let pairs := (rules.zip (xs.zip ys)).map fun (r, x, y) => compareUnder r x y
    if pairs.any (fun p => p.isSome && p != some .eq) then .integer (if op == .ne then 1 else 0)
    else if pairs.any (·.isNone) then .null
    else .integer (if op == .eq then 1 else 0)
  | .is | .isNot =>
    let same := (rules.zip (xs.zip ys)).all fun (r, x, y) =>
      (x.isNull && y.isNull) || compareUnder r x y == some .eq
    .integer (if same == (op == .is) then 1 else 0)
  | _ =>
    match go rules xs ys with
    | some o => .integer (if op.holds o then 1 else 0)
    | none => .null

/-- Whether two rows are equal, NULL equal to NULL, text by the collations. -/
def rowsEqual (colls : List Collation) (a b : Array SqlValue) : Bool :=
  a.size == b.size && (List.range a.size).all fun i =>
    a[i]!.compareWith (colls.getD i .binary) b[i]! == .eq

/-- Keeps the first of each set of equal rows. -/
def distinctRows {α : Type} (colls : List Collation) (items : List (α × Array SqlValue)) :
    List (α × Array SqlValue) :=
  items.foldl (fun acc x => if acc.any (fun y => rowsEqual colls y.2 x.2) then acc else acc ++ [x]) []

/-- Sorts rows by all their columns and keeps one of each set of equal rows. -/
def sortedDistinct (colls : List Collation) (rows : List (Array SqlValue)) : List (Array SqlValue) :=
  let specs := (List.range ((rows.headD #[]).size)).map fun i => (false, true, colls.getD i .binary)
  let sorted := stableSortBy specs (rows.map fun r => (r.toList, r))
  (runsBy (fun a b => compareKeys specs a.1 b.1 == .eq) sorted).filterMap fun run => run.head?.map (·.2)

/-- Rows after OFFSET and LIMIT; a negative LIMIT is none. -/
def cutRows {α : Type} (limit offset : Option Int) (rows : List α) : List α :=
  let rows := match offset with
    | some o => if o > 0 then rows.drop o.toNat else rows
    | none => rows
  match limit with
  | some l => if l ≥ 0 then rows.take l.toNat else rows
  | none => rows

/-- A LIMIT or OFFSET value: an integer, after numeric affinity. -/
def limitValue (v : SqlValue) : Except SqlError Int :=
  match v.withAffinity .numeric with
  | .integer i => .ok i
  | _ => .error { code := 20, message := "datatype mismatch" }

/-- The row of the schema table for an entry: its rowid, then type, name,
table, page and text. -/
def schemaRow (e : SchemaEntry) : Array SqlValue :=
  #[.integer e.rowid, .ofString e.kind.word, .ofString e.name, .ofString e.table, .integer e.rootpage,
    match e.sql with
    | some s => .ofString s
    | none => .null]

/-- The specification of a sort key. -/
def SortKey.spec : SortKey → Bool × Bool × Collation
  | .mk _ d n c => (d, n, c)

/-- The term of a sort key. -/
def SortKey.term : SortKey → Term
  | .mk t _ _ _ => t

mutual

/-- Evaluates a term. -/
def evalTerm : Nat → Env → Term → Eval SqlValue
  | 0, _, _ => throw (.general "expression nested too deeply")
  | fuel + 1, env, t =>
    match t with
    | .value v => pure v
    | .param i => do
      let ctx ← read
      pure (ctx.params[i - 1]?.getD .null)
    | .column d s => pure ((scopeAt env d).row[s]?.getD .null)
    | .negate a => do
      let v ← evalTerm fuel env a
      pure (negateValue v)
    | .bitNot a => do
      let v ← evalTerm fuel env a
      pure (bitNotValue v)
    | .not a => do
      let v ← evalTerm fuel env a
      pure (notValue v)
    | .arith op a b => do
      let x ← evalTerm fuel env a
      let y ← evalTerm fuel env b
      match op with
      | .concat => pure (concatenate x y)
      | .bitAnd | .bitOr | .shl | .shr => pure (bitwise op x y)
      | .extract => liftFunction (jsonFunction "->" [x, y] [(termJsonTag a).marks x, false])
      | .extractValue => liftFunction (jsonFunction "->>" [x, y] [(termJsonTag a).marks x, false])
      | _ => pure (arithmetic op x y)
    | .and a b => do
      let x := (← evalTerm fuel env a).truth?
      if x == some false then pure (.integer 0)
      else
        let y := (← evalTerm fuel env b).truth?
        pure (ofTruth (andValues x y))
    | .or a b => do
      let x := (← evalTerm fuel env a).truth?
      if x == some true then pure (.integer 1)
      else
        let y := (← evalTerm fuel env b).truth?
        pure (ofTruth (orValues x y))
    | .compare op a b rule => do
      let x ← evalTerm fuel env a
      let y ← evalTerm fuel env b
      pure (compareValues op rule x y)
    | .compareRows op as bs rules => do
      let xs ← evalTerms fuel env as
      let ys ← evalTerms fuel env bs
      pure (compareRowValues op rules xs ys)
    | .truth a value negated => do
      let v ← evalTerm fuel env a
      let r := if value then v.truthOr false else !(v.truthOr true)
      pure (.integer (if r != negated then 1 else 0))
    | .isNull a negated => do
      let v ← evalTerm fuel env a
      pure (.integer (if v.isNull != negated then 1 else 0))
    | .between a lo hi lower upper negated => do
      let x ← evalTerm fuel env a
      let l ← evalTerm fuel env lo
      let h ← evalTerm fuel env hi
      let v := ofTruth (andValues (compareValues .ge lower x l).truth? (compareValues .le upper x h).truth?)
      pure (if negated then notValue v else v)
    | .inList a items rule negated => do
      let x ← evalTerm fuel env a
      if x.isNull then pure .null
      else
        let vs ← evalTerms fuel env items
        let r : Option Bool :=
          if vs.any (fun v => compareUnder rule x v == some .eq) then some true
          else if vs.any (·.isNull) then none
          else some false
        pure (ofTruth (if negated then r.map (!·) else r))
    | .inQuery ts q rules negated once => do
      let xs ← evalTerms fuel env ts
      let rows ← onceRows once (runPlan fuel env q)
      let r : Option Bool :=
        if rows.isEmpty then some false
        else if xs.any (·.isNull) then none
        else
          let outcomes := rows.toList.map fun row =>
            let pairs := (List.range xs.length).map fun i =>
              compareUnder (rules.getD i {}) (xs.getD i .null) (row[i]?.getD .null)
            if pairs.all (· == some .eq) then some true
            else if pairs.any (fun p => p.isSome && p != some .eq) then some false
            else none
          if outcomes.any (· == some true) then some true
          else if outcomes.any (·.isNone) then none
          else some false
      pure (ofTruth (if negated then r.map (!·) else r))
    | .exists q once => do
      let rows ← onceRows once (runPlan fuel env q)
      pure (.integer (if rows.isEmpty then 0 else 1))
    | .scalar q i once => do
      let rows ← onceRows once (runPlan fuel env q)
      pure ((rows[0]?.bind (·[i]?)).getD .null)
    | .cast a aff => do
      let v ← evalTerm fuel env a
      pure (SqlValue.cast aff v)
    | .caseOf operand branches otherwise => do
      let ov ← match operand with
        | some o => do
          let v ← evalTerm fuel env o
          pure (some v)
        | none => pure none
      let mut result : Option SqlValue := none
      for (w, r, rule) in branches do
        if result.isNone then
          let wv ← evalTerm fuel env w
          let hit := match ov with
            | some o => (compareValues .eq rule o wv).truth? == some true
            | none => wv.truthOr false
          if hit then
            let v ← evalTerm fuel env r
            result := some v
      match result, otherwise with
      | some v, _ => pure v
      | none, some e => evalTerm fuel env e
      | none, none => pure .null
    | .call name args coll => evalCall fuel env name args coll
    | .aggregate d i => pure ((scopeAt env d).aggregates[i]?.getD .null)
    | .window i => pure ((scopeAt env 0).windows[i]?.getD .null)
    | .raise action message =>
      match action with
      | .ignore => throw { code := 0, message := "IGNORE", raised := some .ignore }
      | a => throw { code := 1811, message, raised := some a }
    | .outer d a => evalTerm fuel (env.drop d) a
    | .lifted d a => evalTerm fuel (List.replicate d {} ++ env) a
    | .jsonValue a => evalTerm fuel env a

/-- Evaluates terms in order. -/
def evalTerms : Nat → Env → List Term → Eval (List SqlValue)
  | 0, _, _ => throw (.general "expression nested too deeply")
  | _, _, [] => pure []
  | fuel + 1, env, t :: rest => do
    let v ← evalTerm fuel env t
    let vs ← evalTerms fuel env rest
    pure (v :: vs)

/-- Calls a function; `coalesce`, `ifnull` and `iif` evaluate their
arguments only as far as needed. -/
def evalCall : Nat → Env → String → List Term → Collation → Eval SqlValue
  | 0, _, _, _, _ => throw (.general "expression nested too deeply")
  | fuel + 1, env, name, args, coll =>
    match name with
    | "coalesce" | "ifnull" => do
      let mut result := SqlValue.null
      for a in args do
        if result.isNull then
          result ← evalTerm fuel env a
      pure result
    | "iif" => do
      let c ← evalTerm fuel env (args.headD (.value .null))
      if c.truthOr false then evalTerm fuel env (args.getD 1 (.value .null))
      else evalTerm fuel env (args.getD 2 (.value .null))
    | "likely" | "unlikely" | "likelihood" => evalTerm fuel env (args.headD (.value .null))
    | "changes" => do pure (.integer (← read).db.changes)
    | "total_changes" => do pure (.integer (← read).db.totalChanges)
    | "last_insert_rowid" => do pure (.integer (← read).db.lastRowid)
    | "random" => do
      let r ← nextRandom
      pure (.integer (ofWord r))
    | "randomblob" => do
      let n ← evalTerm fuel env (args.headD (.value .null))
      let n := n.intValue
      if n > 1000000000 then throw (functionError "string or blob too big")
      let n := if n < 1 then 1 else n.toNat
      let mut bytes : Array UInt8 := #[]
      for _ in [0:n] do
        let r ← nextRandom
        bytes := bytes.push (UInt8.ofNat (r % 256))
      pure (.blob bytes.toList)
    | _ => do
      let vs ← evalTerms fuel env args
      if isDateFunction name then pure (dateFunction name (← read).now vs)
      else if name.startsWith "json" then liftFunction (jsonFunction name vs (jsonFlags args vs))
      else liftFunction (scalarFunction name vs coll)

/-- Runs a plan: its result rows. -/
def runPlan : Nat → Env → Plan → Eval (Array (Array SqlValue))
  | 0, _, _ => throw (.general "query nested too deeply")
  | fuel + 1, env, p =>
    match p with
    | .values rows => do
      let env' := ({} : Scope) :: env
      let mut out := #[]
      for r in rows do
        let vs ← evalTerms fuel env' r
        out := out.push vs.toArray
      pure out
    | .select sources filter groupBy aggregated aggregates having windows outputs distinct orderBy
        limit offset => do
      let lim ← limitTerm fuel env limit
      let off ← limitTerm fuel env offset
      if lim == some 0 then return #[]
      let rows ← joinSources fuel env sources
      let streaming := !aggregated && windows.isEmpty && distinct.isNone && orderBy.isEmpty
      if streaming then
        -- rows are produced one by one, and production stops at the limit
        let wanted : Option Nat := lim.bind fun l =>
          if l < 0 then none else some (l.toNat + (off.map (fun o => if o > 0 then o.toNat else 0)).getD 0)
        let mut out : Array (Array SqlValue) := #[]
        for r in rows do
          if wanted.all (out.size < ·) then
            let env' := ({ row := r } : Scope) :: env
            let keep ← match filter with
              | some f => do
                let v ← evalTerm fuel env' f
                pure (v.truthOr false)
              | none => pure true
            if keep then
              let vs ← evalTerms fuel env' outputs
              out := out.push vs.toArray
        pure (cutRows none off out.toList).toArray
      else
        let mut kept : Array (Array SqlValue) := #[]
        for r in rows do
          let keep ← match filter with
            | some f => do
              let v ← evalTerm fuel (({ row := r } : Scope) :: env) f
              pure (v.truthOr false)
            | none => pure true
          if keep then kept := kept.push r
        let frames ← if aggregated then aggregateScopes fuel env groupBy aggregates kept
          else pure (kept.map fun r => ({ row := r } : Scope))
        let mut having' : Array Scope := #[]
        for f in frames do
          let keep ← match having with
            | some h => do
              let v ← evalTerm fuel (f :: env) h
              pure (v.truthOr false)
            | none => pure true
          if keep then having' := having'.push f
        let frames ← windowScopes fuel env windows having'
        let mut produced : Array (List SqlValue × Array SqlValue) := #[]
        for f in frames do
          let env' := f :: env
          let vs ← evalTerms fuel env' outputs
          let keys ← evalTerms fuel env' (orderBy.map SortKey.term)
          produced := produced.push (keys, vs.toArray)
        let items := match distinct with
          | some colls => distinctRows colls produced.toList
          | none => produced.toList
        let items := if orderBy.isEmpty then items else stableSortBy (orderBy.map SortKey.spec) items
        pure (cutRows lim off (items.map (·.2))).toArray
    | .compound op left right colls orderBy limit offset => do
      let lim ← limitTerm fuel env limit
      let off ← limitTerm fuel env offset
      if lim == some 0 then return #[]
      let l ← runPlan fuel env left
      let r ← runPlan fuel env right
      let rows : List (Array SqlValue) := match op with
        | .unionAll => l.toList ++ r.toList
        | .union => sortedDistinct colls (l.toList ++ r.toList)
        | .intersect => sortedDistinct colls (l.toList.filter fun x => r.any (rowsEqual colls x))
        | .except => sortedDistinct colls (l.toList.filter fun x => !r.any (rowsEqual colls x))
      let rows :=
        if orderBy.isEmpty then rows
        else
          let width := (rows.headD #[]).size
          let rest := if op == .unionAll then []
            else (List.range width).filter fun i => !orderBy.any (·.1 == i)
          let specs := orderBy.map (fun (_, d, n, c) => (d, n, c)) ++
            rest.map fun i => (false, true, colls.getD i .binary)
          (stableSortBy specs (rows.map fun row =>
            (orderBy.map (fun k => row[k.1]?.getD .null) ++ rest.map (fun i => row[i]?.getD .null), row))).map (·.2)
      pure (cutRows lim off rows).toArray
    | .recursive id setup step unionAll colls orderBy limit offset => do
      let lim ← limitTerm fuel env limit
      let off ← limitTerm fuel env offset
      if lim == some 0 then return #[]
      let first ← runPlan fuel env setup
      let first := if unionAll then first.toList else (distinctRows colls (first.toList.map ((), ·))).map (·.2)
      let specs := orderBy.map fun (_, d, n, c) => (d, n, c)
      let keyOf (row : Array SqlValue) : List SqlValue := orderBy.map fun k => row[k.1]?.getD .null
      let mut queue : List (Array SqlValue) := first
      let mut seen : List (Array SqlValue) := first
      let mut out : Array (Array SqlValue) := #[]
      let mut skipped : Nat := 0
      let skip := (off.map fun o => if o > 0 then o.toNat else 0).getD 0
      for _ in [0:1000000] do
        if !queue.isEmpty && lim.all (fun l => l < 0 || out.size < l.toNat) then
          -- the next row: the first of the queue, or the least by ORDER BY
          let pick := if orderBy.isEmpty then 0
            else (List.range queue.length).foldl (fun best i =>
              if compareKeys specs (keyOf queue[i]!) (keyOf queue[best]!) == .lt then i else best) 0
          let row := queue[pick]!
          queue := queue.eraseIdx pick
          if skipped < skip then skipped := skipped + 1 else out := out.push row
          let next ← withReader (fun c => { c with recursive := (id, row) :: c.recursive })
            (runPlan fuel env step)
          let next := next.toList
          if unionAll then queue := queue ++ next
          else
            for n in next do
              if !seen.any (rowsEqual colls n) then
                seen := seen ++ [n]
                queue := queue ++ [n]
      pure out

/-- Evaluates LIMIT or OFFSET. -/
def limitTerm : Nat → Env → Option Term → Eval (Option Int)
  | _, _, none => pure none
  | 0, _, some _ => throw (.general "query nested too deeply")
  | fuel + 1, env, some t => do
    let v ← evalTerm fuel env t
    match limitValue v with
    | .ok i => pure (some i)
    | .error e => throw e

/-- The rows of a FROM item, each led by its rowid slot. -/
def sourceRows : Nat → Env → Source → Eval (Array (Array SqlValue))
  | 0, _, _ => throw (.general "query nested too deeply")
  | fuel + 1, env, source =>
    match source with
    | .table name => do
      let db := (← read).db
      match db.table? name with
      | some t =>
        pure ((db.scanRows t).map fun (rowid, vals) =>
          #[if t.withoutRowid then SqlValue.null else .integer rowid] ++ vals)
      | none => throw (.general ("no such table: " ++ name))
    | .schema => do
      let db := (← read).db
      pure (db.schema.map schemaRow)
    | .query q => do
      let rows ← runPlan fuel env q
      pure (rows.map (#[SqlValue.null] ++ ·))
    | .recursive id => do
      let ctx ← read
      match ctx.recursive.find? (·.1 == id) with
      | some (_, row) => pure #[#[SqlValue.null] ++ row]
      | none => pure #[]
    | .function name args => do
      let vs ← evalTerms fuel env args
      functionRows name vs

/-- Joins the rows of the FROM items. -/
def joinSources : Nat → Env → List Joined → Eval (Array (Array SqlValue))
  | 0, _, _ => throw (.general "query nested too deeply")
  | fuel + 1, env, sources => do
    let mut acc : Array (Array SqlValue) := #[#[]]
    let mut width := 0
    for j in sources do
      let .mk kind source w cond := j
      let fixedRows ← match source with
        | .function _ _ => pure #[]
        | s => sourceRows fuel env s
      let mut next : Array (Array SqlValue) := #[]
      let mut rightMatched := Array.replicate fixedRows.size false
      for l in acc do
        -- a table-valued function's arguments may read the items before it
        let srcRows ← match source with
          | .function name args => do
            let vs ← evalTerms fuel (({ row := l } : Scope) :: env) args
            functionRows name vs
          | _ => pure fixedRows
        let mut matched := false
        for k in [0:srcRows.size] do
          let combined := l ++ srcRows[k]!
          let ok ← match cond with
            | some c => do
              let v ← evalTerm fuel (({ row := combined } : Scope) :: env) c
              pure (v.truthOr false)
            | none => pure true
          if ok then
            next := next.push combined
            matched := true
            if k < rightMatched.size then rightMatched := rightMatched.set! k true
        if !matched && (kind == .left || kind == .full) then
          next := next.push (l ++ Array.replicate w .null)
      if kind == .right || kind == .full then
        for k in [0:fixedRows.size] do
          if !rightMatched[k]! then
            next := next.push (Array.replicate width .null ++ fixedRows[k]!)
      acc := next
      width := width + w
    pure acc

/-- Groups rows and computes the aggregates of each group: one frame per
group, in the order of the group keys, holding the row the other columns
are read from and the aggregate results. Without GROUP BY all rows are one
group, even when there are none. -/
def aggregateScopes : Nat → Env → List (Term × Collation) → List AggregateCall → Array (Array SqlValue) →
    Eval (Array Scope)
  | 0, _, _, _, _ => throw (.general "query nested too deeply")
  | fuel + 1, env, groupBy, aggregates, rows => do
    let specs := groupBy.map fun (_, c) => (false, true, c)
    let mut keyed : Array (List SqlValue × Array SqlValue) := #[]
    for r in rows do
      let keys ← evalTerms fuel (({ row := r } : Scope) :: env) (groupBy.map (·.1))
      keyed := keyed.push (keys, r)
    let groups : List (List (Array SqlValue)) :=
      if groupBy.isEmpty then [rows.toList]
      else (runsBy (fun a b => compareKeys specs a.1 b.1 == .eq) (stableSortBy specs keyed.toList)).map
        (·.map (·.2))
    let calls := aggregates.toArray
    let isMinMax (a : AggregateCall) : Bool := match a with
      | .mk name _ _ _ _ _ => name == "min" || name == "max"
    let anyMinMax := calls.any isMinMax
    let mut frames : Array Scope := #[]
    for group in groups do
      let mut accs : Array Accumulator := calls.map fun | .mk name _ _ _ _ _ => Accumulator.empty name
      let mut seen : Array (List (List SqlValue)) := calls.map fun _ => []
      let mut pending : Array (List (List SqlValue × List SqlValue)) := calls.map fun _ => []
      let mut bare : Array SqlValue := #[]
      let mut used := false
      let mut hit : Option Bool := none
      for r in group do
        let env' := ({ row := r } : Scope) :: env
        for i in [0:calls.size] do
          let .mk name args distinct filter orderBy coll := calls[i]!
          let minmax := name == "min" || name == "max"
          if filter.isSome && minmax && !groupBy.isEmpty then hit := some used
          let passes ← match filter with
            | some f => do
              let v ← evalTerm fuel env' f
              pure (v.truthOr false)
            | none => pure true
          if passes then
            let vs ← evalTerms fuel env' args
            let dup := distinct && (seen[i]!).any fun s =>
              s.length == vs.length && (s.zip vs).all fun (a, b) => a.compareWith coll b == .eq
            if !dup then
              if distinct then seen := seen.set! i (seen[i]! ++ [vs])
              if !orderBy.isEmpty then
                let keys ← evalTerms fuel env' (orderBy.map SortKey.term)
                pending := pending.set! i (pending[i]! ++ [(keys, vs)])
              else
                if minmax then hit := some false
                let (acc, skip) := (accs[i]!).step name coll vs (jsonFlags args vs)
                accs := accs.set! i acc
                if minmax && skip then hit := some true
        let load := if anyMinMax then hit != some true else !used
        if load then bare := r
        used := true
      let mut values : Array SqlValue := #[]
      for i in [0:calls.size] do
        let .mk name args _ _ orderBy coll := calls[i]!
        let mut acc := accs[i]!
        if !orderBy.isEmpty then
          for (_, vs) in stableSortBy (orderBy.map SortKey.spec) pending[i]! do
            acc := (acc.step name coll vs (jsonFlags args vs)).1
        let v ← liftFunction (acc.finish name)
        values := values.push v
      frames := frames.push { row := bare, aggregates := values }
    pure frames

/-- Computes the window functions over the frames: each frame gets the
value of every window, and the frames take the order of the last window. -/
def windowScopes : Nat → Env → List WindowCall → Array Scope → Eval (Array Scope)
  | 0, _, _, _ => throw (.general "query nested too deeply")
  | fuel + 1, env, windows, frames => do
    if windows.isEmpty then return frames
    let mut frames := frames
    let mut order : List Nat := List.range frames.size
    for w in windows do
      let .mk name args filter partition orderBy unit start stop exclusion := w
      let mut inputs : Array WindowInput := #[]
      for f in frames do
        let env' := f :: env
        let parts ← evalTerms fuel env' (partition.map (·.1))
        let keys ← evalTerms fuel env' (orderBy.map SortKey.term)
        let vs ← evalTerms fuel env' args
        let passes ← match filter with
          | some c => do
            let v ← evalTerm fuel env' c
            pure (v.truthOr false)
          | none => pure true
        inputs := inputs.push { partition := parts, order := keys, args := vs,
                                isJson := jsonFlags args vs, passes }
      let bound (b : Bound) : Eval BoundValue := match b with
        | .unboundedPreceding => pure .unboundedPreceding
        | .preceding t => do
          let v ← evalTerm fuel env t
          pure (.preceding v)
        | .currentRow => pure .currentRow
        | .following t => do
          let v ← evalTerm fuel env t
          pure (.following v)
        | .unboundedFollowing => pure .unboundedFollowing
      let startV ← bound start
      let stopV ← bound stop
      let shape : WindowShape :=
        { name, partitionCollations := partition.map (·.2), orderSpecs := orderBy.map SortKey.spec,
          unit, start := startV, stop := stopV, exclusion }
      match windowValues shape inputs with
      | .ok (values, sorted) =>
        frames := (List.range frames.size).toArray.map fun i =>
          let f := frames[i]!
          { f with windows := f.windows.push (values[i]?.getD .null) }
        order := sorted
      | .error m => throw (functionError m)
    pure (order.toArray.map (frames[·]!))

end

end ReportExport.Sql
