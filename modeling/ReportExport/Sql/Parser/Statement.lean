import ReportExport.Sql.Parser.Query

/-!
# Statements

The statements of the language, read one at a time from a text that may hold
several, each ended by a semicolon or by the end of the text.

A definition keeps the text the catalog stores for it:

* a table: `CREATE TABLE` and the text from its name to the closing
  parenthesis (or the last table option);
* an index: `CREATE INDEX` (or `CREATE UNIQUE INDEX`) and the text from its
  name to the end of the statement;
* a view or trigger: `CREATE VIEW` (`CREATE TRIGGER`) and the text from its
  name to its last token.

A column added by ALTER TABLE keeps the text from its name to the end of the
statement, without trailing blanks and semicolons.
-/

namespace ReportExport.Sql.Parser

open Text
open ReportExport.Sql

/-- An optional conflict clause: ON CONFLICT and a resolution. -/
def onConflict : P (Option Resolution) := do
  if (← atKeyword "ON") && (← peekAhead 1).isKeyword "CONFLICT" then
    advance; advance
    return some (← resolution)
  else return none
where
  resolution : P Resolution := do
    if ← acceptKeyword "ROLLBACK" then return .rollback
    else if ← acceptKeyword "ABORT" then return .abort
    else if ← acceptKeyword "FAIL" then return .fail
    else if ← acceptKeyword "IGNORE" then return .ignore
    else if ← acceptKeyword "REPLACE" then return .replace
    else fail

/-- OR and a resolution, after INSERT or UPDATE. -/
def orResolution : P (Option Resolution) := do
  if ← acceptKeyword "OR" then return some (← onConflict.resolution)
  else return none

/-- IF NOT EXISTS. -/
def ifNotExists : P Bool := do
  if ← acceptKeyword "IF" then
    expectKeyword "NOT"
    expectKeyword "EXISTS"
    return true
  else return false

/-- IF EXISTS. -/
def ifExists : P Bool := do
  if ← acceptKeyword "IF" then
    expectKeyword "EXISTS"
    return true
  else return false

/-- The action of ON DELETE or ON UPDATE. -/
def foreignAction : P ForeignAction := do
  if ← acceptKeyword "SET" then
    if ← acceptKeyword "NULL" then return .setNull
    else do expectKeyword "DEFAULT"; return .setDefault
  else if ← acceptKeyword "CASCADE" then return .cascade
  else if ← acceptKeyword "RESTRICT" then return .restrict
  else do expectKeyword "NO"; expectKeyword "ACTION"; return .noAction

/-- [NOT] DEFERRABLE [INITIALLY DEFERRED | INITIALLY IMMEDIATE]: whether the
check waits for the end of the transaction. -/
def deferClause : P (Option Bool) := do
  let negated ←
    if (← atKeyword "NOT") && (← peekAhead 1).isKeyword "DEFERRABLE" then
      advance; pure true
    else pure false
  if ← acceptKeyword "DEFERRABLE" then
    let deferred ←
      if ← acceptKeyword "INITIALLY" then
        if ← acceptKeyword "DEFERRED" then pure true
        else do expectKeyword "IMMEDIATE"; pure false
      else pure false
    return some (!negated && deferred)
  else return none

/-- The parent table and columns of REFERENCES, with its clauses. -/
def references (columns : List String) : P ForeignKey := do
  let parent ← name
  let parentColumns ← if ← atPunct "(" then nameList else pure []
  let rec clauses (fk : ForeignKey) : Nat → P ForeignKey
    | 0 => pure fk
    | fuel + 1 => do
      if ← acceptKeyword "ON" then
        if ← acceptKeyword "DELETE" then
          let a ← foreignAction
          clauses { fk with onDelete := a } fuel
        else if ← acceptKeyword "UPDATE" then
          let a ← foreignAction
          clauses { fk with onUpdate := a } fuel
        else
          expectKeyword "INSERT"
          let _ ← foreignAction
          clauses fk fuel
      else if ← acceptKeyword "MATCH" then
        let _ ← name
        clauses fk fuel
      else pure fk
  let fk ← clauses { columns, parent, parentColumns } ((← read).tokens.size + 1)
  match ← deferClause with
  | some d => return { fk with deferred := d }
  | none => return fk

/-- The columns of an index or key: expressions with COLLATE and ASC or DESC. -/
def indexedColumns (fuel : Nat) : P (List IndexedColumn) := do
  let terms ← sortList fuel
  return terms.map fun term =>
    match term.expr with
    | .collate e c => { e, collation := some c, descending := term.descending }
    | e => { e, descending := term.descending }

/-- A DEFAULT value and the text it was written as. -/
def defaultValue (fuel : Nat) : P (Expr × String) := do
  let s ← read
  let t ← peek
  if t.isPunct "(" then
    advance
    let inner ← peek
    let e ← expr fuel
    let close ← peek
    expectPunct ")"
    let raw := (s.bytes.extract inner.start close.start).toList
    let trimmed := ((raw.dropWhile isSpaceByte).reverse.dropWhile isSpaceByte).reverse
    return (e, lenientString trimmed)
  else if t.isPunct "+" || t.isPunct "-" then
    advance
    let term ← peek
    let e ← termValue
    let text := s.slice t.start term.stop
    return (if t.isPunct "-" then .unary .neg e else e, text)
  else
    match literalOf? t with
    | some _ => let e ← termValue; return (e, s.textOf t)
    | none =>
      match t.kind with
      | .keyword "CURRENT_DATE" | .keyword "CURRENT_TIME" | .keyword "CURRENT_TIMESTAMP" =>
        advance
        return (.call (s.textOf t) [] false false [] none none, s.textOf t)
      | _ =>
        match nameOf? s t false false with
        | some n =>
          advance
          let lower := n.toLower
          let quoted := match t.kind with
            | .ident _ _ => (s.textOf t).startsWith "\"" || (s.textOf t).startsWith "'" ||
                (s.textOf t).startsWith "`" || (s.textOf t).startsWith "["
            | _ => false
          let e : Expr :=
            if !quoted && lower == "true" then .literal (.integer 1)
            else if !quoted && lower == "false" then .literal (.integer 0)
            else .literal (.ofString n)
          return (e, s.textOf t)
        | none => fail
where
  termValue : P Expr := do
    let t ← peek
    match literalOf? t with
    | some (.ok e) => advance; return e
    | some (.error msg) => failWith msg
    | none =>
      match t.kind with
      | .keyword "CURRENT_DATE" | .keyword "CURRENT_TIME" | .keyword "CURRENT_TIMESTAMP" =>
        advance
        return .call ((← read).textOf t) [] false false [] none none
      | _ => fail

/-- The constraints after a column's name and type. -/
def columnConstraints (fuel : Nat) (col : ColumnDef) : P ColumnDef := do
  let s ← read
  let rec go (col : ColumnDef) (constraintName : Option String) : Nat → P ColumnDef
    | 0 => pure col
    | f + 1 => do
      let t ← peek
      match t.kind with
      | .keyword "CONSTRAINT" =>
        advance
        let n ← name
        go col (some n) f
      | .keyword "DEFAULT" =>
        advance
        let d ← defaultValue fuel
        if col.generated.isSome then failWith "cannot use DEFAULT on a generated column"
        go { col with default := some d } none f
      | .keyword "NULL" =>
        advance
        let _ ← onConflict
        go col none f
      | .keyword "NOT" =>
        if (← peekAhead 1).isKeyword "NULL" then
          advance; advance
          let r ← onConflict
          go { col with notNull := some r } none f
        else if (← peekAhead 1).isKeyword "DEFERRABLE" then
          let _ ← deferClause
          go col none f
        else do advance; fail
      | .keyword "PRIMARY" =>
        advance
        expectKeyword "KEY"
        let descending ←
          if ← acceptKeyword "DESC" then pure true
          else do let _ ← acceptKeyword "ASC"; pure false
        let r ← onConflict
        let autoinc ← acceptKeyword "AUTOINCREMENT"
        if col.generated.isSome then failWith keyMessage
        go { col with primaryKey := some (descending, r, autoinc) } none f
      | .keyword "UNIQUE" =>
        advance
        let r ← onConflict
        go { col with unique := col.unique ++ [r] } none f
      | .keyword "CHECK" =>
        advance
        let open_ ← peek
        expectPunct "("
        let e ← expr fuel
        let close ← peek
        expectPunct ")"
        let text := constraintName.getD (trimmedSlice s (open_.start + 1) close.start)
        go { col with checks := col.checks ++ [{ e, name := text }] } none f
      | .keyword "REFERENCES" =>
        advance
        let fk ← references [col.name]
        go { col with references := col.references ++ [fk] } none f
      | .keyword "DEFERRABLE" =>
        let _ ← deferClause
        go col none f
      | .keyword "COLLATE" =>
        advance
        let c ← idOrString
        go { col with collation := some c } none f
      | .keyword "GENERATED" =>
        advance
        expectKeyword "ALWAYS"
        expectKeyword "AS"
        let g ← generated col
        go { col with generated := some g } none f
      | .keyword "AS" =>
        advance
        let g ← generated col
        go { col with generated := some g } none f
      | _ => pure col
  go col none (s.tokens.size + 1)
where
  trimmedSlice (s : Source) (start stop : Nat) : String :=
    let raw := (s.bytes.extract start stop).toList
    lenientString ((raw.dropWhile isSpaceByte).reverse.dropWhile isSpaceByte).reverse
  keyMessage : String := "generated columns cannot be part of the PRIMARY KEY"
  /- The expression of a generated column and the word after it, which is
  VIRTUAL, STORED or none; a column with a default cannot be generated. -/
  generated (col : ColumnDef) : P Generated := do
    expectPunct "("
    let e ← expr fuel
    expectPunct ")"
    let s ← read
    let t ← peek
    let failed := "error in generated column \"" ++ col.name ++ "\""
    let stored ← match nameOf? s t false false with
      | some _ =>
        advance
        match (s.textOf t).toLower with
        | "virtual" => pure false
        | "stored" => pure true
        | _ => failWith failed
      | none => pure false
    if col.default.isSome then failWith failed
    if col.primaryKey.isSome then failWith keyMessage
    return { e, stored }

/-- A column definition: name, type and constraints. -/
def columnDef (fuel : Nat) : P ColumnDef := do
  let n ← name
  let ty ← typeName true
  columnConstraints fuel { name := n, declared := ty }

/-- A table constraint, after an optional CONSTRAINT name. -/
def tableConstraint (fuel : Nat) : P TableConstraint := do
  let s ← read
  let constraintName ← if ← acceptKeyword "CONSTRAINT" then some <$> name else pure none
  let t ← peek
  match t.kind with
  | .keyword "PRIMARY" =>
    advance
    expectKeyword "KEY"
    expectPunct "("
    let cols ← indexedColumns fuel
    let autoinc ← acceptKeyword "AUTOINCREMENT"
    expectPunct ")"
    let r ← onConflict
    return .primaryKey cols autoinc r
  | .keyword "UNIQUE" =>
    advance
    expectPunct "("
    let cols ← indexedColumns fuel
    expectPunct ")"
    let r ← onConflict
    return .unique cols r
  | .keyword "CHECK" =>
    advance
    let open_ ← peek
    expectPunct "("
    let e ← expr fuel
    let close ← peek
    expectPunct ")"
    let _ ← onConflict
    let text := constraintName.getD (columnConstraints.trimmedSlice s (open_.start + 1) close.start)
    return .check { e, name := text }
  | .keyword "FOREIGN" =>
    advance
    expectKeyword "KEY"
    let cols ← nameList
    expectKeyword "REFERENCES"
    let fk ← references cols
    return .foreignKey fk
  | _ => fail

/-- Whether a token starts a table constraint. -/
def startsTableConstraint (t : Token) : Bool :=
  t.isKeyword "CONSTRAINT" || t.isKeyword "PRIMARY" || t.isKeyword "UNIQUE" ||
    t.isKeyword "CHECK" || t.isKeyword "FOREIGN"

/-- The body of CREATE TABLE after its opening parenthesis: the definition,
and the offset of the place where an added column goes (the comma before
the table constraints, or the closing parenthesis). -/
def tableBody (fuel : Nat) : P (TableDef × Nat) := do
  let rec columns (acc : Array ColumnDef) : Nat → P (Array ColumnDef)
    | 0 => fail
    | f + 1 => do
      let c ← columnDef fuel
      let acc := acc.push c
      if (← atPunct ",") && !startsTableConstraint (← peekAhead 1) then
        advance
        columns acc f
      else pure acc
  let size := (← read).tokens.size + 1
  let cols ← columns #[] size
  let addAt ← peek
  let rec constraints (acc : Array TableConstraint) (first : Bool) : Nat → P (Array TableConstraint)
    | 0 => fail
    | f + 1 => do
      if ← atPunct ")" then return acc
      if first then expectPunct ","
      else let _ ← acceptPunct ","
      let c ← tableConstraint fuel
      constraints (acc.push c) false f
  let cons ← constraints #[] true size
  expectPunct ")"
  -- table options
  let rec options (d : TableDef) : Nat → P TableDef
    | 0 => pure d
    | f + 1 => do
      if ← acceptKeyword "WITHOUT" then
        let n ← name
        if n.toLower == "rowid" then
          let d := { d with withoutRowid := true }
          if ← acceptPunct "," then options d f else pure d
        else failWith ("unknown table option: " ++ n)
      else
        match nameOf? (← read) (← peek) true true with
        | some n =>
          advance
          if n.toLower == "strict" then
            let d := { d with strict := true }
            if ← acceptPunct "," then options d f else pure d
          else failWith ("unknown table option: " ++ n)
        | none => pure d
  let d ← options { columns := cols.toList, constraints := cons.toList } size
  return (d, addAt.start)

/-- A list of SET assignments. -/
def assignments (fuel : Nat) : P (List Assignment) := do
  let rec go (acc : Array Assignment) : Nat → P (List Assignment)
    | 0 => fail
    | f + 1 => do
      let cols ← if ← atPunct "(" then nameList else do pure [← name]
      expectPunct "="
      let e ← expr fuel
      let acc := acc.push { columns := cols, value := e }
      if ← acceptPunct "," then go acc f else pure acc.toList
  go #[] ((← read).tokens.size + 1)

/-- RETURNING and its columns, when present. -/
def returning (fuel : Nat) : P (List ResultColumn) := do
  if ← acceptKeyword "RETURNING" then resultColumns fuel else return []

/-- The upsert clauses of INSERT and RETURNING. -/
def upserts (fuel : Nat) : P (List Upsert × List ResultColumn) := do
  let rec go (acc : Array Upsert) : Nat → P (List Upsert × List ResultColumn)
    | 0 => fail
    | f + 1 => do
      if (← atKeyword "ON") && (← peekAhead 1).isKeyword "CONFLICT" then
        advance; advance
        let target ←
          if ← acceptPunct "(" then
            let cols ← indexedColumns fuel
            expectPunct ")"
            let w ← if ← acceptKeyword "WHERE" then some <$> expr fuel else pure none
            pure (some (cols, w))
          else pure none
        expectKeyword "DO"
        let action ←
          if ← acceptKeyword "NOTHING" then pure UpsertAction.nothing
          else
            expectKeyword "UPDATE"
            expectKeyword "SET"
            let sets ← assignments fuel
            let w ← if ← acceptKeyword "WHERE" then some <$> expr fuel else pure none
            pure (UpsertAction.update sets w)
        let acc := acc.push { target, action }
        if target.isNone then
          return (acc.toList, ← returning fuel)
        go acc f
      else return (acc.toList, ← returning fuel)
  go #[] ((← read).tokens.size + 1)

/-- The table of INSERT, UPDATE or DELETE, with an optional alias. -/
def targetTable : P (String × Option String) := do
  let (_, n) ← qualifiedName
  if ← acceptKeyword "AS" then return (n, some (← name))
  return (n, none)

/-- The rest of INSERT after INSERT [OR ...] or REPLACE. -/
def insertRest (fuel : Nat) (ctes : Option (Bool × List TableExpr)) (r : Option Resolution) :
    P Statement := do
  expectKeyword "INTO"
  let (table, aliasName) ← targetTable
  let columns ←
    if (← atPunct "(") && !startsQuery (← peekAhead 1) then some <$> nameList else pure none
  if ← acceptKeyword "DEFAULT" then
    expectKeyword "VALUES"
    let ret ← returning fuel
    return .insert ctes r table aliasName columns .defaults [] ret
  let q ← query fuel
  let (ups, ret) ← upserts fuel
  return .insert ctes r table aliasName columns (.query q) ups ret

/-- The rest of UPDATE after UPDATE. -/
def updateRest (fuel : Nat) (ctes : Option (Bool × List TableExpr)) : P Statement := do
  let r ← orResolution
  let (table, aliasName) ← targetTable
  indexedBy
  expectKeyword "SET"
  let sets ← assignments fuel
  let source ← if ← acceptKeyword "FROM" then some <$> fromClause fuel else pure none
  let filter ← if ← acceptKeyword "WHERE" then some <$> expr fuel else pure none
  let ret ← returning fuel
  return .update ctes r table aliasName sets source filter ret
where
  indexedBy : P Unit := do
    if ← acceptKeyword "INDEXED" then
      expectKeyword "BY"
      let _ ← name
    else if (← atKeyword "NOT") && (← peekAhead 1).isKeyword "INDEXED" then
      advance; advance

/-- The rest of DELETE after DELETE. -/
def deleteRest (fuel : Nat) (ctes : Option (Bool × List TableExpr)) : P Statement := do
  expectKeyword "FROM"
  let (table, aliasName) ← targetTable
  updateRest.indexedBy
  let filter ← if ← acceptKeyword "WHERE" then some <$> expr fuel else pure none
  let ret ← returning fuel
  return .delete ctes table aliasName filter ret

/-- The name of a schema object, possibly qualified by its schema. -/
def objectName : P String := do
  let (_, n) ← qualifiedName
  return n

/-- The statements of a trigger body, each ended by a semicolon, up to END. -/
def triggerBody (fuel : Nat) : P (List Statement) := do
  let rec go (acc : Array Statement) : Nat → P (List Statement)
    | 0 => fail
    | f + 1 => do
      if ← acceptKeyword "END" then return acc.toList
      let t ← peek
      let st ←
        if t.isKeyword "UPDATE" then do advance; updateRest fuel none
        else if t.isKeyword "DELETE" then do advance; deleteRest fuel none
        else if t.isKeyword "INSERT" then do
          advance
          let r ← orResolution
          insertRest fuel none r
        else if t.isKeyword "REPLACE" then do
          advance
          insertRest fuel none (some .replace)
        else if startsQuery t then do pure (Statement.query (← query fuel))
        else fail
      expectPunct ";"
      go (acc.push st) f
  go #[] ((← read).tokens.size + 1)

/-- CREATE and what follows it. -/
def createStatement (fuel : Nat) : P Statement := do
  let s ← read
  let temp ← do
    if ← acceptKeyword "TEMP" then pure true
    else if ← acceptKeyword "TEMPORARY" then pure true
    else pure false
  let unique ← if temp then pure false else acceptKeyword "UNIQUE"
  if !unique && (← acceptKeyword "TABLE") then
    let ine ← ifNotExists
    let n ← objectName
    let nameTok := s.tokenAt ((← get).pos - 1)
    if ← acceptKeyword "AS" then
      let q ← query fuel
      return .createTableAs temp ine n q
    expectPunct "("
    let (body, addAt) ← tableBody fuel
    let text ← textThrough nameTok
    let body := { body with addColumnAt := 13 + (addAt - nameTok.start) }
    return .createTable temp ine n body ("CREATE TABLE " ++ text)
  else if !unique && (← acceptKeyword "VIEW") then
    let ine ← ifNotExists
    let _ ← peek
    let n ← objectName
    let nameTok := s.tokenAt ((← get).pos - 1)
    let columns ← if ← atPunct "(" then some <$> indexedNames fuel else pure none
    expectKeyword "AS"
    let q ← query fuel
    let endTok ← peek
    let raw := (s.bytes.extract nameTok.start endTok.start).toList
    let text := lenientString (raw.reverse.dropWhile isSpaceByte).reverse
    return .createView temp ine n columns q ("CREATE VIEW " ++ text)
  else if ← acceptKeyword "INDEX" then
    let ine ← ifNotExists
    let n ← objectName
    let nameTok := s.tokenAt ((← get).pos - 1)
    expectKeyword "ON"
    let table ← name
    expectPunct "("
    let cols ← indexedColumns fuel
    expectPunct ")"
    let filter ← if ← acceptKeyword "WHERE" then some <$> expr fuel else pure none
    let endTok ← peek
    let text := s.slice nameTok.start endTok.start
    let head := if unique then "CREATE UNIQUE INDEX " else "CREATE INDEX "
    return .createIndex unique ine n table cols filter (head ++ text)
  else if !unique && (← acceptKeyword "TRIGGER") then
    let ine ← ifNotExists
    let n ← objectName
    let nameTok := s.tokenAt ((← get).pos - 1)
    let time ←
      if ← acceptKeyword "BEFORE" then pure TriggerTime.before
      else if ← acceptKeyword "AFTER" then pure .after
      else if ← acceptKeyword "INSTEAD" then do expectKeyword "OF"; pure .insteadOf
      else pure .before
    let event ←
      if ← acceptKeyword "DELETE" then pure TriggerEvent.delete
      else if ← acceptKeyword "INSERT" then pure .insert
      else
        expectKeyword "UPDATE"
        if ← acceptKeyword "OF" then
          let cols ← namesUntilOn
          pure (.update (some cols))
        else pure (.update none)
    expectKeyword "ON"
    let table ← objectName
    if ← acceptKeyword "FOR" then
      expectKeyword "EACH"
      expectKeyword "ROW"
    let condition ← if ← acceptKeyword "WHEN" then some <$> expr fuel else pure none
    expectKeyword "BEGIN"
    let body ← triggerBody fuel
    let text ← textThrough nameTok
    return .createTrigger temp ine n time event table condition body ("CREATE TRIGGER " ++ text)
  else fail
where
  namesUntilOn : P (List String) := do
    let rec go (acc : Array String) : Nat → P (List String)
      | 0 => fail
      | f + 1 => do
        let n ← name
        if ← acceptPunct "," then go (acc.push n) f else pure (acc.push n).toList
    go #[] ((← read).tokens.size + 1)

/-- DROP and what follows it. -/
def dropStatement : P Statement := do
  let kind ←
    if ← acceptKeyword "TABLE" then pure ObjectKind.table
    else if ← acceptKeyword "INDEX" then pure .index
    else if ← acceptKeyword "VIEW" then pure .view
    else if ← acceptKeyword "TRIGGER" then pure .trigger
    else fail
  let ie ← ifExists
  let n ← objectName
  return .drop kind ie n

/-- ALTER TABLE and what follows it. -/
def alterStatement (fuel : Nat) : P Statement := do
  let s ← read
  expectKeyword "TABLE"
  let table ← objectName
  if ← acceptKeyword "RENAME" then
    if ← acceptKeyword "TO" then
      return .renameTable table (← name)
    let _ ← acceptKeyword "COLUMN"
    let old ← name
    expectKeyword "TO"
    let newTok ← peek
    let new ← name
    let first := s.bytes.getD newTok.start 0
    return .renameColumn table old new (first == 0x22 || first == 0x27 || first == 0x60 || first == 0x5b)
  else if ← acceptKeyword "ADD" then
    let _ ← acceptKeyword "COLUMN"
    let first ← peek
    let col ← columnDef fuel
    let endTok ← peek
    let raw := (s.bytes.extract first.start (endTok.start + (if endTok.isPunct ";" then 1 else 0))).toList
    let trimmed := (raw.reverse.dropWhile (fun b => b == 0x3b || isSpaceByte b)).reverse
    return .addColumn table col (lenientString trimmed)
  else if ← acceptKeyword "DROP" then
    let _ ← acceptKeyword "COLUMN"
    return .dropColumn table (← name)
  else fail

/-- PRAGMA and what follows it. -/
def pragmaStatement : P Statement := do
  let (_, n) ← qualifiedName
  if ← acceptPunct "=" then
    return .pragma n (some (← pragmaValue))
  else if ← acceptPunct "(" then
    let v ← pragmaValue
    expectPunct ")"
    return .pragma n (some v)
  else return .pragma n none
where
  pragmaValue : P PragmaValue := do
    let s ← read
    let negative ← if ← acceptPunct "-" then pure true else do let _ ← acceptPunct "+"; pure false
    let t ← peek
    match t.kind with
    | .integer x | .float x => advance; return .number negative x
    | .string b => if negative then fail else do advance; return .text (lenientString b)
    | .keyword "ON" | .keyword "DELETE" | .keyword "DEFAULT" =>
      if negative then fail else do advance; return .name (s.textOf t)
    | _ =>
      if negative then fail
      match nameOf? s t false true with
      | some n => advance; return .name n
      | none => fail

/-- A transaction name after TRANSACTION, which is ignored. -/
def transactionTail : P Unit := do
  if ← acceptKeyword "TRANSACTION" then
    match nameOf? (← read) (← peek) true true with
    | some _ => advance
    | none => pure ()

/-- One statement at the current position. -/
def statement (fuel : Nat) : P Statement := do
  let t ← peek
  match t.kind with
  | .keyword "SELECT" | .keyword "VALUES" => return .query (← query fuel)
  | .keyword "WITH" =>
    let saved ← get
    advance
    let recursive ← acceptKeyword "RECURSIVE"
    let ctes ← withList fuel []
    let next ← peek
    if next.isKeyword "INSERT" then
      advance
      let r ← orResolution
      insertRest fuel (some (recursive, ctes)) r
    else if next.isKeyword "REPLACE" then
      advance
      insertRest fuel (some (recursive, ctes)) (some .replace)
    else if next.isKeyword "UPDATE" then
      advance
      updateRest fuel (some (recursive, ctes))
    else if next.isKeyword "DELETE" then
      advance
      deleteRest fuel (some (recursive, ctes))
    else
      set saved
      return .query (← query fuel)
  | .keyword "CREATE" => advance; createStatement fuel
  | .keyword "DROP" => advance; dropStatement
  | .keyword "ALTER" => advance; alterStatement fuel
  | .keyword "INSERT" =>
    advance
    let r ← orResolution
    insertRest fuel none r
  | .keyword "REPLACE" => advance; insertRest fuel none (some .replace)
  | .keyword "UPDATE" => advance; updateRest fuel none
  | .keyword "DELETE" => advance; deleteRest fuel none
  | .keyword "PRAGMA" => advance; pragmaStatement
  | .keyword "BEGIN" =>
    advance
    let kind ←
      if ← acceptKeyword "DEFERRED" then pure BeginKind.deferred
      else if ← acceptKeyword "IMMEDIATE" then pure .immediate
      else if ← acceptKeyword "EXCLUSIVE" then pure .exclusive
      else pure .deferred
    transactionTail
    return .begin kind
  | .keyword "COMMIT" | .keyword "END" =>
    advance
    transactionTail
    return .commit
  | .keyword "ROLLBACK" =>
    advance
    transactionTail
    if ← acceptKeyword "TO" then
      let _ ← acceptKeyword "SAVEPOINT"
      return .rollback (some (← name))
    return .rollback none
  | .keyword "SAVEPOINT" => advance; return .savepoint (← name)
  | .keyword "RELEASE" =>
    advance
    let _ ← acceptKeyword "SAVEPOINT"
    return .release (← name)
  | .keyword "VACUUM" =>
    advance
    match nameOf? (← read) (← peek) true true with
    | some _ => advance
    | none => pure ()
    return .maintenance
  | .keyword "ANALYZE" | .keyword "REINDEX" =>
    advance
    match nameOf? (← read) (← peek) true true with
    | some _ =>
      let _ ← qualifiedName
    | none => pure ()
    return .maintenance
  | _ => fail

/-- A parsed statement: the statement, how many parameters it has, the names
of its named parameters with their numbers, and the token position after it. -/
structure Parsed where
  statement : Statement
  parameters : Nat
  names : List (String × Nat)
  next : Nat

/-- Where the next statement starts: past empty statements (lone
semicolons); none at the end of the text. -/
def Source.nextStatement (s : Source) (pos : Nat) : Option Nat :=
  let rec go (i : Nat) : Nat → Option Nat
    | 0 => none
    | fuel + 1 =>
      let t := s.tokenAt i
      match t.kind with
      | .eof => none
      | .punct ";" => go (i + 1) fuel
      | _ => some i
  go pos (s.tokens.size + 1)

/-- Parses the statement at a token position, up to its semicolon or the
end of the text. -/
def Source.parseAt (s : Source) (pos : Nat) : Except String Parsed := do
  let fuel := 16 * (s.tokens.size + 4)
  let run : P Statement := do
    let st ← statement fuel
    let t ← peek
    match t.kind with
    | .eof => pure st
    | .punct ";" => advance; pure st
    | _ => fail
  match (run.run s).run { pos } with
  | .ok (st, state) =>
    .ok { statement := st, parameters := state.vars, names := state.names.toList, next := state.pos }
  | .error e => .error e

/-- The source of a text: its bytes and tokens. -/
def Source.ofBytes (text : Bytes) : Source :=
  { bytes := text.toArray, tokens := tokenize text }

end ReportExport.Sql.Parser
