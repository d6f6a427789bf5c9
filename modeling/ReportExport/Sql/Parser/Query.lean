import ReportExport.Sql.Parser.Basic

/-!
# Expressions and queries

Expressions are read by precedence, loosest first:

| level | operators |
|---|---|
| 1 | `OR` |
| 2 | `AND` |
| 3 | prefix `NOT` |
| 4 | `=` `==` `!=` `<>` `IS` `IS NOT` `IN` `LIKE` `GLOB` `MATCH` `REGEXP` `BETWEEN` `ISNULL` `NOTNULL` `NOT NULL` |
| 5 | `<` `<=` `>` `>=` |
| 7 | `&` `|` `<<` `>>` |
| 8 | `+` `-` |
| 9 | `*` `/` `%` |
| 10 | `||` `->` `->>` |
| 11 | `COLLATE` |
| 12 | prefix `-` `+` `~` |

All infix operators group to the left. A prefix `-` or `+` before an
expression that is itself a prefix `+` replaces it.

Queries are simple selects and VALUES lists joined by compound operators,
with common table expressions before them and ORDER BY and LIMIT after the
last. Expressions and queries contain each other, so they are read by one
family of functions; every call spends one unit of fuel, and the fuel given
(a multiple of the number of tokens) is more than any statement needs.
-/

namespace ReportExport.Sql.Parser

open Text
open ReportExport.Sql

/-- Whether a token starts a query. -/
def startsQuery (t : Token) : Bool :=
  t.isKeyword "SELECT" || t.isKeyword "VALUES" || t.isKeyword "WITH"

/-- The literal a token stands for, if it is one. -/
def literalOf? (t : Token) : Option (Except String Expr) :=
  match t.kind with
  | .integer s => some (.ok (.number s false))
  | .float s => some (.ok (.number s true))
  | .separated s =>
    some (match removeSeparators s with
      | .ok u => .ok (.number u (looksReal u))
      | .error e => .error e)
  | .string b => some (.ok (.literal (.text b)))
  | .blob b => some (.ok (.literal (.blob b)))
  | .keyword "NULL" => some (.ok (.literal .null))
  | _ => none

/-- Applies a prefix `-`, `+` or `~`: a `-` or `+` before a prefix `+`
takes its place. -/
def applyUnary (op : UnaryOp) (e : Expr) : Expr :=
  match op, e with
  | .neg, .unary .pos x => .unary .neg x
  | .pos, .unary .pos x => .unary .pos x
  | _, _ => .unary op e

/-- The join operator written by one to three words, or the error that
names them. -/
def joinKindOf (words : List String) : Except String (JoinKind × Bool) :=
  let codes := words.map fun w =>
    match w.toUpper with
    | "NATURAL" => some (true, false, false, false, false, false)
    | "LEFT" => some (false, true, false, true, false, false)
    | "OUTER" => some (false, false, false, true, false, false)
    | "RIGHT" => some (false, false, true, true, false, false)
    | "FULL" => some (false, true, true, true, false, false)
    | "INNER" => some (false, false, false, false, true, false)
    | "CROSS" => some (false, false, false, false, true, true)
    | _ => none
  let err := .error ("unknown join type: " ++ " ".intercalate words)
  if codes.any (·.isNone) then err
  else
    let cs := codes.filterMap id
    let natural := cs.any (·.1)
    let left := cs.any (·.2.1)
    let right := cs.any (·.2.2.1)
    let outer := cs.any (·.2.2.2.1)
    let inner := cs.any (·.2.2.2.2.1)
    let cross := cs.any (·.2.2.2.2.2)
    if (inner && outer) || (outer && !left && !right) then err
    else
      let kind : JoinKind :=
        if left && right then .full else if left then .left else if right then .right
        else if cross then .cross else .inner
      .ok (kind, natural)

/-- Whether OVER at the current token begins a window: a parenthesis or a
name follows it. -/
def overFollows : P Bool := do
  let s ← read
  let next ← peekAhead 1
  return next.isPunct "(" || (nameOf? s next true true).isSome

/-- Whether WINDOW at the current token begins a window clause: a name and
AS follow it. -/
def windowClauseFollows : P Bool := do
  let s ← read
  let next ← peekAhead 1
  let after ← peekAhead 2
  return (nameOf? s next true true).isSome && after.isKeyword "AS"

/-- An optional alias: AS and a name, or a bare identifier or string. -/
def aliasName? : P (Option String) := do
  if ← acceptKeyword "AS" then return some (← name)
  if (← atKeyword "WINDOW") && (← windowClauseFollows) then return none
  match nameOf? (← read) (← peek) true false with
  | some n => advance; return some n
  | none => return none

/-- A type name as written: names, then up to two signed numbers in
parentheses. In a column definition (`inColumn`) GENERATED starts a
constraint instead. -/
def typeName (inColumn : Bool) : P String := do
  let s ← read
  let first ← peek
  let rec names (n : Nat) : Nat → P Nat
    | 0 => pure n
    | fuel + 1 => do
      let t ← peek
      if t.isKeyword "GENERATED" && inColumn then return n
      match nameOf? s t true false with
      | some _ => advance; names (n + 1) fuel
      | none => return n
  let count ← names 0 (s.tokens.size + 1)
  if count == 0 then return ""
  if ← acceptPunct "(" then
    signedNumber
    if ← acceptPunct "," then signedNumber
    expectPunct ")"
  textThrough first
where
  signedNumber : P Unit := do
    if !(← acceptPunct "+") then let _ ← acceptPunct "-"
    let t ← peek
    match t.kind with
    | .integer _ | .float _ | .separated _ => advance
    | _ => fail

mutual

/-- An expression. -/
def expr : Nat → P Expr
  | 0 => fail
  | fuel + 1 => binary fuel 1

/-- An expression of operators at `level` or tighter. -/
def binary : Nat → Nat → P Expr
  | 0, _ => fail
  | fuel + 1, level => do
    let lhs ← unary fuel
    binaryTail fuel level lhs

/-- Applies the infix and postfix operators of `level` or tighter that
follow `lhs`. -/
def binaryTail : Nat → Nat → Expr → P Expr
  | 0, _, _ => fail
  | fuel + 1, level, lhs => do
    let t ← peek
    let step (prec : Nat) (op : BinaryOp) : P Expr := do
      if prec < level then return lhs
      advance
      let rhs ← binary fuel (prec + 1)
      binaryTail fuel level (.binary op lhs rhs)
    match t.kind with
    | .keyword "OR" => step 1 .or
    | .keyword "AND" => step 2 .and
    | .punct "=" | .punct "==" => step 4 .eq
    | .punct "!=" | .punct "<>" => step 4 .ne
    | .punct "<" => step 5 .lt
    | .punct "<=" => step 5 .le
    | .punct ">" => step 5 .gt
    | .punct ">=" => step 5 .ge
    | .punct "&" => step 7 .bitAnd
    | .punct "|" => step 7 .bitOr
    | .punct "<<" => step 7 .shl
    | .punct ">>" => step 7 .shr
    | .punct "+" => step 8 .add
    | .punct "-" => step 8 .sub
    | .punct "*" => step 9 .mul
    | .punct "/" => step 9 .div
    | .punct "%" => step 9 .rem
    | .punct "||" => step 10 .concat
    | .punct "->" => step 10 .extract
    | .punct "->>" => step 10 .extractValue
    | .keyword "COLLATE" =>
      if 11 < level then return lhs
      advance
      let c ← idOrString
      binaryTail fuel level (.collate lhs c)
    | .keyword "IS" =>
      if 4 < level then return lhs
      advance
      let negated ← acceptKeyword "NOT"
      let distinct ← acceptKeyword "DISTINCT"
      if distinct then expectKeyword "FROM"
      let rhs ← binary fuel 5
      let op := if negated != distinct then BinaryOp.isNot else BinaryOp.is
      binaryTail fuel level (.binary op lhs rhs)
    | .keyword "ISNULL" =>
      if 4 < level then return lhs
      advance
      binaryTail fuel level (.isNull lhs false)
    | .keyword "NOTNULL" =>
      if 4 < level then return lhs
      advance
      binaryTail fuel level (.isNull lhs true)
    | .keyword "NOT" =>
      if 4 < level then return lhs
      let next ← peekAhead 1
      if next.isKeyword "NULL" then
        advance; advance
        binaryTail fuel level (.isNull lhs true)
      else
        advance
        postfixLevel4 fuel level lhs true
    | .keyword "LIKE" | .keyword "GLOB" | .keyword "REGEXP" | .keyword "MATCH"
    | .keyword "BETWEEN" | .keyword "IN" =>
      if 4 < level then return lhs
      postfixLevel4 fuel level lhs false
    | _ => return lhs

/-- The operators of level four that may follow NOT: pattern matching,
BETWEEN and IN. -/
def postfixLevel4 : Nat → Nat → Expr → Bool → P Expr
  | 0, _, _, _ => fail
  | fuel + 1, level, lhs, negated => do
    let t ← peek
    let patternOp : Option PatternOp :=
      match t.kind with
      | .keyword "LIKE" => some .like
      | .keyword "GLOB" => some .glob
      | .keyword "REGEXP" => some .regexp
      | .keyword "MATCH" => some .match
      | _ => none
    match patternOp with
    | some op =>
      advance
      let pat ← binary fuel 5
      let esc ← if ← acceptKeyword "ESCAPE" then some <$> binary fuel 5 else pure none
      binaryTail fuel level (.pattern op lhs pat esc negated)
    | none =>
      if t.isKeyword "BETWEEN" then
        advance
        let lo ← binary fuel 5
        expectKeyword "AND"
        let hi ← binary fuel 5
        binaryTail fuel level (.between lhs lo hi negated)
      else if t.isKeyword "IN" then
        advance
        let e ← inRest fuel lhs negated
        binaryTail fuel level e
      else fail

/-- The right side of IN: a list, a query, or a table. -/
def inRest : Nat → Expr → Bool → P Expr
  | 0, _, _ => fail
  | fuel + 1, lhs, negated => do
    if ← acceptPunct "(" then
      if startsQuery (← peek) then
        let q ← query fuel
        expectPunct ")"
        return .inQuery lhs q negated
      else if ← acceptPunct ")" then
        -- an empty list: false, or true when negated, whatever the left side
        return .literal (.integer (if negated then 1 else 0))
      else
        let items ← exprList fuel
        expectPunct ")"
        return .inList lhs items negated
    else
      let (_, table) ← qualifiedName
      if ← atPunct "(" then
        advance
        let args ← if ← atPunct ")" then pure [] else exprList fuel
        expectPunct ")"
        let q : Query := .mk false []
          (.select false [.all] (some (.mk (.function table args none) .none [])) none [] none [])
          [] [] none none
        return .inQuery lhs q negated
      else return .inTable lhs table negated

/-- A prefix expression: NOT, `-`, `+`, `~`, or a primary expression. -/
def unary : Nat → P Expr
  | 0 => fail
  | fuel + 1 => do
    let t ← peek
    match t.kind with
    | .keyword "NOT" =>
      advance
      let e ← binary fuel 4
      return .unary .not e
    | .punct "-" => advance; return applyUnary .neg (← unary fuel)
    | .punct "+" => advance; return applyUnary .pos (← unary fuel)
    | .punct "~" => advance; return .unary .bitNot (← unary fuel)
    | _ => primary fuel

/-- A primary expression. -/
def primary : Nat → P Expr
  | 0 => fail
  | fuel + 1 => do
    let s ← read
    let t ← peek
    match literalOf? t with
    | some (.ok e) =>
      -- a string may also name a table before a dot
      match t.kind with
      | .string b =>
        if (← peekAhead 1).isPunct "." then qualifiedColumn fuel (lenientString b)
        else advance; return e
      | _ => advance; return e
    | some (.error msg) => failWith msg
    | none =>
    match t.kind with
    | .variable text =>
      advance
      if text.startsWith "#" && (text.toList.drop 1).head?.any Char.isDigit then
        throw (unexpected s t)
      return .param (← assignParameter text)
    | .punct "(" =>
      advance
      if startsQuery (← peek) then
        let q ← query fuel
        expectPunct ")"
        return .subquery q
      else
        let items ← exprList fuel
        expectPunct ")"
        match items with
        | [e] => return e
        | _ => return .row items
    | .keyword "CAST" =>
      advance
      expectPunct "("
      let e ← expr fuel
      expectKeyword "AS"
      let ty ← typeName false
      expectPunct ")"
      return .cast e ty
    | .keyword "CASE" =>
      advance
      let operand ← if ← atKeyword "WHEN" then pure none else some <$> expr fuel
      let branches ← whenList fuel
      let otherwise ← if ← acceptKeyword "ELSE" then some <$> expr fuel else pure none
      expectKeyword "END"
      return .caseOf operand branches otherwise
    | .keyword "EXISTS" =>
      advance
      expectPunct "("
      let q ← query fuel
      expectPunct ")"
      return .exists q
    | .keyword "RAISE" =>
      advance
      expectPunct "("
      if ← acceptKeyword "IGNORE" then
        expectPunct ")"
        return .raise .ignore none
      else
        let action ←
          if ← acceptKeyword "ROLLBACK" then pure Resolution.rollback
          else if ← acceptKeyword "ABORT" then pure Resolution.abort
          else if ← acceptKeyword "FAIL" then pure Resolution.fail
          else fail
        expectPunct ","
        let msg ← idOrString
        expectPunct ")"
        return .raise action (some msg)
    | .keyword "CURRENT_DATE" | .keyword "CURRENT_TIME" | .keyword "CURRENT_TIMESTAMP" =>
      advance
      return .call (s.textOf t) [] false false [] none none
    | _ =>
      match nameOf? s t false true with
      | none => fail
      | some n =>
        let next ← peekAhead 1
        if next.isPunct "(" then
          advance; advance
          functionCall fuel n
        else if next.isPunct "." then qualifiedColumn fuel n
        else
          advance
          let quoted := match t.kind with
            | .ident _ q => q
            | _ => false
          return .column none none n quoted

/-- A column written with its table (and schema): the current token is the
first name and a dot follows. -/
def qualifiedColumn : Nat → String → P Expr
  | 0, _ => fail
  | _ + 1, first => do
    advance
    expectPunct "."
    let second ← name
    if ← acceptPunct "." then
      let third ← name
      return .column (some first) (some second) third false
    else return .column none (some first) second false

/-- The arguments of a call after its opening parenthesis, and FILTER and
OVER after it. -/
def functionCall : Nat → String → P Expr
  | 0, _ => fail
  | fuel + 1, fname => do
    let (args, distinct, star, orderBy) ←
      if ← acceptPunct "*" then
        expectPunct ")"
        pure ([], false, true, [])
      else
        let distinct ← acceptKeyword "DISTINCT"
        if !distinct then let _ ← acceptKeyword "ALL"
        let args ← if ← atPunct ")" then pure [] else exprList fuel
        let orderBy ←
          if ← acceptKeyword "ORDER" then
            expectKeyword "BY"
            sortList fuel
          else pure []
        expectPunct ")"
        pure (args, distinct, false, orderBy)
    let filter ←
      if (← atKeyword "FILTER") && (← peekAhead 1).isPunct "(" then
        advance; advance
        expectKeyword "WHERE"
        let e ← expr fuel
        expectPunct ")"
        pure (some e)
      else pure none
    let overClause ←
      if (← atKeyword "OVER") && (← overFollows) then
        advance
        if ← acceptPunct "(" then
          let w ← windowSpec fuel
          expectPunct ")"
          pure (some (Over.spec w))
        else
          let n ← name
          pure (some (Over.named n))
      else pure none
    return .call fname args distinct star orderBy filter overClause

/-- WHEN ... THEN ... pairs of CASE. -/
def whenList : Nat → P (List (Expr × Expr))
  | 0 => fail
  | fuel + 1 => do
    expectKeyword "WHEN"
    let c ← expr fuel
    expectKeyword "THEN"
    let v ← expr fuel
    if ← atKeyword "WHEN" then return (c, v) :: (← whenList fuel)
    else return [(c, v)]

/-- A list of expressions separated by commas. -/
def exprList : Nat → P (List Expr)
  | 0 => fail
  | fuel + 1 => do
    let e ← expr fuel
    if ← acceptPunct "," then return e :: (← exprList fuel)
    else return [e]

/-- ORDER BY terms. -/
def sortList : Nat → P (List OrderTerm)
  | 0 => fail
  | fuel + 1 => do
    let e ← expr fuel
    let descending ←
      if ← acceptKeyword "DESC" then pure true
      else do let _ ← acceptKeyword "ASC"; pure false
    let nulls ←
      if ← acceptKeyword "NULLS" then
        if ← acceptKeyword "FIRST" then pure (some true)
        else do expectKeyword "LAST"; pure (some false)
      else pure none
    let term := OrderTerm.mk e descending nulls
    if ← acceptPunct "," then return term :: (← sortList fuel)
    else return [term]

/-- A window after its opening parenthesis. -/
def windowSpec : Nat → P WindowSpec
  | 0 => fail
  | fuel + 1 => do
    let t ← peek
    let reserved := t.isKeyword "PARTITION" || t.isKeyword "ORDER" || t.isKeyword "RANGE" ||
      t.isKeyword "ROWS" || t.isKeyword "GROUPS"
    let base ←
      if reserved then pure none
      else match nameOf? (← read) t true true with
        | some n => advance; pure (some n)
        | none => pure none
    let partition ←
      if ← acceptKeyword "PARTITION" then
        expectKeyword "BY"
        exprList fuel
      else pure []
    let orderBy ←
      if ← acceptKeyword "ORDER" then
        expectKeyword "BY"
        sortList fuel
      else pure []
    let frame ← frameSpec fuel
    return .mk base partition orderBy frame

/-- An optional frame. -/
def frameSpec : Nat → P (Option Frame)
  | 0 => fail
  | fuel + 1 => do
    let unit? : Option FrameUnit ←
      if ← acceptKeyword "ROWS" then pure (some .rows)
      else if ← acceptKeyword "RANGE" then pure (some .range)
      else if ← acceptKeyword "GROUPS" then pure (some .groups)
      else pure none
    match unit? with
    | none => return none
    | some unit =>
      let (start, stop) ←
        if ← acceptKeyword "BETWEEN" then
          let start ← frameBound fuel true
          expectKeyword "AND"
          let stop ← frameBound fuel false
          pure (start, stop)
        else
          let start ← frameBound fuel true
          pure (start, FrameBound.currentRow)
      let exclusion ←
        if ← acceptKeyword "EXCLUDE" then
          if ← acceptKeyword "NO" then do expectKeyword "OTHERS"; pure FrameExclusion.noOthers
          else if ← acceptKeyword "CURRENT" then do expectKeyword "ROW"; pure .currentRow
          else if ← acceptKeyword "GROUP" then pure .group
          else do expectKeyword "TIES"; pure .ties
        else pure .noOthers
      let rank : FrameBound → Nat
        | .unboundedPreceding => 0
        | .preceding _ => 1
        | .currentRow => 2
        | .following _ => 3
        | .unboundedFollowing => 4
      if (rank start == 2 && rank stop == 1) || (rank start == 3 && rank stop ≤ 2) then
        failWith "unsupported frame specification"
      return some (.mk unit start stop exclusion)

/-- A frame bound; `isStart` for the first. -/
def frameBound : Nat → Bool → P FrameBound
  | 0, _ => fail
  | fuel + 1, isStart => do
    if ← acceptKeyword "UNBOUNDED" then
      if isStart then do expectKeyword "PRECEDING"; return .unboundedPreceding
      else do expectKeyword "FOLLOWING"; return .unboundedFollowing
    else if (← atKeyword "CURRENT") && (← peekAhead 1).isKeyword "ROW" then
      advance; advance
      return .currentRow
    else
      let e ← expr fuel
      if ← acceptKeyword "PRECEDING" then return .preceding e
      else do expectKeyword "FOLLOWING"; return .following e

/-- A query. -/
def query : Nat → P Query
  | 0 => fail
  | fuel + 1 => do
    let (recursive, ctes) ←
      if ← acceptKeyword "WITH" then
        let r ← acceptKeyword "RECURSIVE"
        let cs ← withList fuel []
        pure (r, cs)
      else pure (false, [])
    let (first, o0, l0) ← oneSelect fuel
    let rest ← compoundRest fuel
    -- only the last select may have ORDER BY or LIMIT; the one nearest the
    -- end that has one is reported, with the operator after it
    let clauses := (o0, l0) :: rest.map (fun (_, _, o, l) => (o, l))
    let ops := rest.map (·.1)
    match ((clauses.zip ops).reverse.find? fun ((o, l), _) => !o.isEmpty || l.isSome) with
    | some ((o, _), op) =>
      let opName := match op with
        | .union => "UNION" | .unionAll => "UNION ALL"
        | .intersect => "INTERSECT" | .except => "EXCEPT"
      let clause := if o.isEmpty then "LIMIT" else "ORDER BY"
      failWith (clause ++ " clause should come after " ++ opName ++ " not before")
    | none => pure ()
    let (orderBy, limit) := (clauses.getLast?).getD ([], none)
    let (lim, off) := limit.getD (none, none)
    return .mk recursive ctes first (rest.map fun (op, c, _, _) => (op, c)) orderBy lim off

/-- The common table expressions of WITH, after those named `seen`; a
name may be given only once. -/
def withList : Nat → List String → P (List TableExpr)
  | 0, _ => fail
  | fuel + 1, seen => do
    let n ← name
    let columns ← if ← atPunct "(" then some <$> indexedNames fuel else pure none
    expectKeyword "AS"
    let materialized ←
      if ← acceptKeyword "MATERIALIZED" then pure (some true)
      else if ← atKeyword "NOT" then do
        advance; expectKeyword "MATERIALIZED"; pure (some false)
      else pure none
    expectPunct "("
    let q ← query fuel
    expectPunct ")"
    let item := TableExpr.mk n columns materialized q
    if seen.any (fun s => (bytesOf s).map lowerByte == (bytesOf n).map lowerByte) then failWith ("duplicate WITH table name: " ++ n)
    if ← acceptPunct "," then return item :: (← withList fuel (n :: seen))
    else return [item]

/-- A parenthesized list of names, each possibly with COLLATE and ASC or
DESC, as the columns of a common table expression are written. -/
def indexedNames : Nat → P (List String)
  | 0 => fail
  | _ + 1 => do
    expectPunct "("
    let rec go (acc : Array String) : Nat → P (List String)
      | 0 => fail
      | f + 1 => do
        let n ← name
        if ← acceptKeyword "COLLATE" then let _ ← idOrString
        if !(← acceptKeyword "ASC") then let _ ← acceptKeyword "DESC"
        if ← acceptPunct "," then go (acc.push n) f
        else
          expectPunct ")"
          return (acc.push n).toList
    go #[] ((← read).tokens.size + 1)

/-- The compound steps after a first select, each with its own ORDER BY
and LIMIT. -/
def compoundRest : Nat →
    P (List (CompoundOp × Core × List OrderTerm × Option (Option Expr × Option Expr)))
  | 0 => fail
  | fuel + 1 => do
    let op? : Option CompoundOp ←
      if ← acceptKeyword "UNION" then
        if ← acceptKeyword "ALL" then pure (some .unionAll) else pure (some .union)
      else if ← acceptKeyword "INTERSECT" then pure (some .intersect)
      else if ← acceptKeyword "EXCEPT" then pure (some .except)
      else pure none
    match op? with
    | none => return []
    | some op =>
      let (core, o, l) ← oneSelect fuel
      return (op, core, o, l) :: (← compoundRest fuel)

/-- One select or VALUES list with its own ORDER BY and LIMIT. -/
def oneSelect : Nat → P (Core × List OrderTerm × Option (Option Expr × Option Expr))
  | 0 => fail
  | fuel + 1 => do
    if ← acceptKeyword "VALUES" then
      let rows ← valuesRows fuel
      return (.values rows, [], none)
    expectKeyword "SELECT"
    let distinct ←
      if ← acceptKeyword "DISTINCT" then pure true
      else do let _ ← acceptKeyword "ALL"; pure false
    let columns ← resultColumns fuel
    let source ← if ← acceptKeyword "FROM" then some <$> fromClause fuel else pure none
    let filter ← if ← acceptKeyword "WHERE" then some <$> expr fuel else pure none
    let groupBy ←
      if ← acceptKeyword "GROUP" then
        expectKeyword "BY"
        exprList fuel
      else pure []
    let having ← if ← acceptKeyword "HAVING" then some <$> expr fuel else pure none
    let windows ←
      if (← atKeyword "WINDOW") && (← windowClauseFollows) then
        advance
        windowDefs fuel
      else pure []
    let orderBy ←
      if ← acceptKeyword "ORDER" then
        expectKeyword "BY"
        sortList fuel
      else pure []
    let limit ←
      if ← acceptKeyword "LIMIT" then
        let first ← expr fuel
        if ← acceptKeyword "OFFSET" then
          let off ← expr fuel
          pure (some (some first, some off))
        else if ← acceptPunct "," then
          let second ← expr fuel
          pure (some (some second, some first))
        else pure (some (some first, none))
      else pure none
    return (.select distinct columns source filter groupBy having windows, orderBy, limit)

/-- The rows of VALUES. -/
def valuesRows : Nat → P (List (List Expr))
  | 0 => fail
  | fuel + 1 => do
    expectPunct "("
    let row ← exprList fuel
    expectPunct ")"
    if ← acceptPunct "," then return row :: (← valuesRows fuel)
    else return [row]

/-- The named windows of a WINDOW clause. -/
def windowDefs : Nat → P (List (String × WindowSpec))
  | 0 => fail
  | fuel + 1 => do
    let n ← name
    expectKeyword "AS"
    expectPunct "("
    let w ← windowSpec fuel
    expectPunct ")"
    if ← acceptPunct "," then return (n, w) :: (← windowDefs fuel)
    else return [(n, w)]

/-- The result columns of a select. -/
def resultColumns : Nat → P (List ResultColumn)
  | 0 => fail
  | fuel + 1 => do
    let s ← read
    let t ← peek
    let column ←
      if t.isPunct "*" then
        advance
        pure ResultColumn.all
      else if (nameOf? s t true true).isSome && (← peekAhead 1).isPunct "." &&
          (← peekAhead 2).isPunct "*" then
        let n := (nameOf? s t true true).getD ""
        advance; advance; advance
        pure (ResultColumn.allOf n)
      else
        let e ← expr fuel
        let text ← spanFrom t
        let aliasName ← aliasName?
        pure (ResultColumn.expr e aliasName text)
    if ← acceptPunct "," then return column :: (← resultColumns fuel)
    else return [column]

/-- A FROM clause. -/
def fromClause : Nat → P FromClause
  | 0 => fail
  | fuel + 1 => do
    let first ← fromItem fuel
    let c ← joinConstraint fuel
    match c with
    | .none => pure ()
    | .on _ => failWith "a JOIN clause is required before ON"
    | .using _ => failWith "a JOIN clause is required before USING"
    let joins ← joinSteps fuel
    return .mk first .none joins

/-- The joins after the first item of FROM. -/
def joinSteps : Nat → P (List JoinStep)
  | 0 => fail
  | fuel + 1 => do
    let s ← read
    let t ← peek
    let op? : Option (JoinKind × Bool) ←
      if t.isPunct "," then do advance; pure (some (.inner, false))
      else if t.isKeyword "JOIN" then do advance; pure (some (.inner, false))
      else match t.kind with
        | .keyword k =>
          if joinKeywords.contains k then
            advance
            let w1 := s.textOf t
            let t2 ← peek
            if t2.isKeyword "JOIN" then
              advance
              match joinKindOf [w1] with
              | .ok r => pure (some r)
              | .error e => failWith e
            else
              let w2 ← name
              let t3 ← peek
              if t3.isKeyword "JOIN" then
                advance
                match joinKindOf [w1, w2] with
                | .ok r => pure (some r)
                | .error e => failWith e
              else
                let w3 ← name
                expectKeyword "JOIN"
                match joinKindOf [w1, w2, w3] with
                | .ok r => pure (some r)
                | .error e => failWith e
          else pure none
        | _ => pure none
    match op? with
    | none => return []
    | some (kind, natural) =>
      let item ← fromItem fuel
      let c ← joinConstraint fuel
      let step := JoinStep.mk kind natural item c
      return step :: (← joinSteps fuel)

/-- ON or USING after an item of FROM. -/
def joinConstraint : Nat → P JoinConstraint
  | 0 => fail
  | fuel + 1 => do
    if ← acceptKeyword "ON" then return .on (← expr fuel)
    else if ← acceptKeyword "USING" then return .using (← nameList)
    else return .none

/-- An item of FROM. -/
def fromItem : Nat → P FromItem
  | 0 => fail
  | fuel + 1 => do
    if ← acceptPunct "(" then
      if startsQuery (← peek) then
        let q ← query fuel
        expectPunct ")"
        let a ← aliasName?
        return .subquery q a
      else
        let f ← fromClause fuel
        expectPunct ")"
        let a ← aliasName?
        return .nested f a
    else
      let (schema, n) ← qualifiedName
      if ← acceptPunct "(" then
        let args ← if ← atPunct ")" then pure [] else exprList fuel
        expectPunct ")"
        let a ← aliasName?
        return .function n args a
      else
        let a ← aliasName?
        if ← acceptKeyword "INDEXED" then
          expectKeyword "BY"
          let _ ← name
        else if (← atKeyword "NOT") && (← peekAhead 1).isKeyword "INDEXED" then
          advance; advance
        return .table schema n a

end

end ReportExport.Sql.Parser
