import ReportExport.Sql.Pragma
import ReportExport.Sql.Trigger

/-!
# Connections and scripts

A connection holds a database and, while a transaction is open, the
database to return to on ROLLBACK and the savepoints inside it. A statement
runs whole or not at all; the statements of a script before a failing one
keep their effect.

A script runs its statements one after the other, each prepared only when
the one before it has run. The arguments of a script are given to its
parameters the way the database driver gives them: for each statement, its
parameters in order; a parameter without a name (`?`) takes the next
argument not yet taken by an earlier parameter of the script, `?N` and `$N`
take the N-th argument, and once a parameter asks for an argument past the
last, it and the parameters after it in the statement stay NULL. Parameters
named with `:`, `@` or `$` and a word are refused.

What a script gives back is the rows of its statements, each with its
statement's column names, and the change count read after each statement
(the count of the last INSERT, UPDATE or DELETE the connection ran), added up.
-/

namespace ReportExport.Sql

open Text

/-- Why a script failed: the engine's error, or arguments the driver could
not give. -/
inductive RunError where
  | engine (e : SqlError)
  | protocol (message : String)
  deriving Inhabited

/-- What a script gave back: its rows with their column names, and the
change counts added up. -/
structure ScriptResult where
  rows : List (List String × List SqlValue) := []
  changes : Nat := 0
  /-- whether a statement defined, altered or dropped a schema object -/
  schemaChange : Bool := false
  deriving Inhabited

/-- Whether a statement defines, alters or drops a schema object. -/
def Statement.changesSchema : Statement → Bool
  | .createTable .. | .createTableAs .. | .createIndex .. | .createView .. | .createTrigger .. => true
  | .drop .. | .renameTable .. | .renameColumn .. | .addColumn .. | .dropColumn .. => true
  | _ => false

/-- A connection: the database, and while a transaction is open the
database it began from, the savepoints (innermost first), and whether a
SAVEPOINT began it. -/
structure Connection where
  db : Database := {}
  saved : Option Database := none
  savepoints : List (String × Database) := []
  bySavepoint : Bool := false
  deriving Inhabited

/-- The leading digits of a text as a number, if it starts with one. -/
def leadingNumber (s : String) : Option Nat :=
  let digits := s.toList.takeWhile Char.isDigit
  if digits.isEmpty then none
  else some (digits.foldl (fun n c => n * 10 + (c.toNat - 48)) 0)

/-- The values of a statement's parameters from the script's arguments,
`offset` of them taken already; and how many this statement takes. -/
def bindParameters (p : Parser.Parsed) (args : Array SqlValue) (offset : Nat) :
    Except String (Array SqlValue × Nat) := Id.run do
  let mut values := Array.replicate p.parameters SqlValue.null
  let mut taken := offset
  let mut stopped := false
  for i in [1:p.parameters + 1] do
    if !stopped then
      let n ← match p.names.find? (·.2 == i) with
        | some (name, _) =>
          match name.toList with
          | '?' :: rest => pure ((leadingNumber (String.ofList rest)).getD 0)
          | '$' :: rest =>
            match leadingNumber (String.ofList rest) with
            | some k => pure k
            | none =>
              return .error ("parameters with non-integer names are not currently supported: " ++
                String.ofList rest ++ " (sqlx_sqlite::arguments:93)")
          | _ => return .error ("unsupported SQL parameter format: " ++ name ++ " (sqlx_sqlite::arguments:99)")
        | none =>
          taken := taken + 1
          pure taken
      if n > args.size || n == 0 then stopped := true
      else values := values.set! (i - 1) args[n - 1]!
  return .ok (values, taken - offset)

namespace Connection

/-- Whether a transaction is open. -/
def inTransaction (c : Connection) : Bool := c.saved.isSome

/-- An earlier state of the database, with what the connection counts kept. -/
def restore (now before : Database) : Database :=
  { before with changes := now.changes, totalChanges := now.totalChanges, lastRowid := now.lastRowid,
                random := now.random, foreignKeysOn := now.foreignKeysOn }

/-- Ends the open transaction. -/
def close (c : Connection) : Connection := { c with saved := none, savepoints := [], bySavepoint := false }

/-- Runs a statement that defines schema objects. -/
def define (c : Connection) (r : Except SqlError Database) : Connection × Except SqlError Rows :=
  match r with
  | .ok db => ({ c with db }, .ok {})
  | .error e => (c, .error e)

/-- Runs a statement that changes rows. -/
def change (c : Connection) (r : Change Changed) : Connection × Except SqlError Rows :=
  match r with
  | .ok done =>
    let db := { done.db with changes := done.count, totalChanges := done.db.totalChanges + done.count }
    ({ c with db }, .ok { columns := done.columns, rows := done.returned })
  | .error stop =>
    if stop.rollback then
      match c.saved with
      | some before => ({ close c with db := restore c.db before }, .error stop.error)
      | none => ({ c with db := { c.db with changes := 0 } }, .error stop.error)
    else
      match stop.kept with
      | some kept => ({ c with db := { kept with changes := 0 } }, .error stop.error)
      | none => ({ c with db := { c.db with changes := 0 } }, .error stop.error)

/-- Runs one statement with its parameters' values. -/
def execute (c : Connection) (params : Array SqlValue) (s : Statement) : Connection × Except SqlError Rows :=
  let db := c.db
  match s with
  | .query q =>
    match Resolve.resolveQuery db q with
    | .error e => (c, .error e)
    | .ok r =>
      match db.runEval params (runPlan 100000 [] r.plan) with
      | .ok (rows, db') => ({ c with db := db' }, .ok { columns := r.display.toList, rows })
      | .error e => (c, .error e)
  | .createTable _ ifNotExists name body text => c.define (db.createTable ifNotExists name body text)
  | .createTableAs _ ifNotExists name q => c.define (db.createTableAs ifNotExists name q)
  | .createIndex unique ifNotExists name table columns filter text =>
    c.define (db.createIndex unique ifNotExists name table columns filter text)
  | .createView _ ifNotExists name columns q text => c.define (db.createView ifNotExists name columns q text)
  | .createTrigger _ ifNotExists name time event table condition body text =>
    c.define (db.createTrigger ifNotExists name time event table condition body text)
  | .drop kind ifExists name => c.define (db.dropObject kind ifExists name)
  | .renameTable table newName => c.define (db.renameTable table newName)
  | .renameColumn table old new quoted => c.define (db.renameColumn table old new quoted)
  | .addColumn table column text => c.define (db.addColumn table column text)
  | .dropColumn table column => c.define (db.dropColumn table column)
  | .insert .. | .update .. | .delete .. => c.change (db.changeRows params {} statementTriggers none s)
  | .pragma name value =>
    match db.pragma c.inTransaction name value with
    | .ok (db', rows) => ({ c with db := db' }, .ok rows)
    | .error e => (c, .error e)
  | .begin _ =>
    if c.inTransaction then (c, .error (.general "cannot start a transaction within a transaction"))
    else ({ c with saved := some db }, .ok {})
  | .commit =>
    if c.inTransaction then (close c, .ok {})
    else (c, .error (.general "cannot commit - no transaction is active"))
  | .rollback none =>
    match c.saved with
    | some before => ({ close c with db := restore db before }, .ok {})
    | none => (c, .error (.general "cannot rollback - no transaction is active"))
  | .rollback (some name) =>
    match c.savepoints.findIdx? (fun (n, _) => sameName n name) with
    | some k =>
      let (_, before) := c.savepoints[k]!
      ({ c with db := restore db before, savepoints := c.savepoints.drop k }, .ok {})
    | none => (c, .error (.general ("no such savepoint: " ++ name)))
  | .savepoint name =>
    if c.inTransaction then ({ c with savepoints := (name, db) :: c.savepoints }, .ok {})
    else ({ c with saved := some db, savepoints := [(name, db)], bySavepoint := true }, .ok {})
  | .release name =>
    match c.savepoints.findIdx? (fun (n, _) => sameName n name) with
    | some k =>
      let rest := c.savepoints.drop (k + 1)
      if rest.isEmpty && c.bySavepoint then (close c, .ok {})
      else ({ c with savepoints := rest }, .ok {})
    | none => (c, .error (.general ("no such savepoint: " ++ name)))
  | .maintenance => (c, .ok {})

/-- The error preparing a statement would give, before its arguments are
given: the resolution of a query. -/
def prepareError (c : Connection) (s : Statement) : Option SqlError :=
  match s with
  | .query q =>
    match Resolve.resolveQuery c.db q with
    | .error e => some e
    | .ok _ => none
  | _ => none

/-- Runs a script with its arguments. -/
def run (c : Connection) (text : String) (args : List SqlValue) : Connection × Except RunError ScriptResult :=
  let src := Parser.Source.ofBytes (bytesOf text)
  let argv := args.toArray
  let rec go (c : Connection) (acc : ScriptResult) (pos used : Nat) :
      Nat → Connection × Except RunError ScriptResult
    | 0 => (c, .ok acc)
    | fuel + 1 =>
      match src.nextStatement pos with
      | none => (c, .ok acc)
      | some start =>
        match src.parseAt start with
        | .error m => (c, .error (.engine (.general m)))
        | .ok parsed =>
          match bindParameters parsed argv used with
          | .error m =>
            match c.prepareError parsed.statement with
            | some e => (c, .error (.engine e))
            | none => (c, .error (.protocol m))
          | .ok (params, taken) =>
            match c.execute params parsed.statement with
            | (c', .error e) => (c', .error (.engine e))
            | (c', .ok rows) =>
              let acc := { acc with
                rows := acc.rows ++ rows.rows.toList.map fun r => (rows.columns, r.toList),
                changes := acc.changes + c'.db.changes,
                schemaChange := acc.schemaChange || parsed.statement.changesSchema }
              go c' acc parsed.next (used + taken) fuel
  go c {} 0 0 (src.tokens.size + 1)

end Connection

end ReportExport.Sql
