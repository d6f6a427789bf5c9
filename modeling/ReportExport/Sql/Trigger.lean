import ReportExport.Sql.Change

/-!
# Firing triggers

A statement that changes rows fires the triggers of its table (or view) for
each row, at the time each asks for. BEFORE triggers run before the row is
checked and written, AFTER triggers once it is written, INSTEAD OF triggers
in place of a change to a view. Triggers fire newest first; a trigger on
`UPDATE OF` some columns fires only when the SET list writes one of them,
and one with a WHEN clause only when it holds for the row.

A trigger's statements run one after another. They read the row before the
change as `old` (not for INSERT) and the row after it as `new` (not for
DELETE), and take the conflict resolution of the statement that fired them
when it has one. They may fire further triggers, but never one that is
already running. `RAISE(IGNORE)` ends the trigger and the triggers after it,
and the change of the row that fired them is dropped when they ran before
it; `RAISE(ABORT | FAIL | ROLLBACK, message)` fails with the message and
resolves as the word says. The rows a trigger changes are counted in the
total of changes but not in the changes of the statement, and the last
inserted rowid is back to what it was once the triggers of a row have run.
-/

namespace ReportExport.Sql

open Text

/-- Whether a trigger fires on a row event. -/
def Trigger.firesOn (tr : Trigger) (ev : RowEvent) : Bool :=
  sameName tr.table ev.table && tr.time == ev.time &&
    match tr.event, ev.change with
    | .insert, .insert | .delete, .delete => true
    | .update none, .update _ => true
    | .update (some cols), .update written => cols.any fun c => written.any (sameName c ·)
    | _, _ => false

/-- What the statements of a trigger's body see of a row event: a level
outside their own holding the row before as `old` and the row after as
`new`, each read only by its name. -/
def RowEvent.frame (ev : RowEvent) : TriggerFrame :=
  let width := ev.columns.size + 1
  let item (name : String) (offset : Nat) : Resolve.Item :=
    { name, columns := ev.columns, rowid := ev.rowid, offset, qualifiedOnly := true }
  let rowOf : Option (Int × Array SqlValue) → Array SqlValue
    | some (r, vs) => #[SqlValue.integer r] ++ vs
    | none => Array.replicate width .null
  let items := (if ev.change matches .insert then #[] else #[item "old" 0]) ++
    (if ev.change matches .delete then #[] else #[item "new" width])
  { levels := [{ items }], scopes := [{ row := rowOf ev.old ++ rowOf ev.new }] }

namespace Database

/-- Runs a statement that changes rows: of a table, or of a view through its
INSTEAD OF triggers. `outer`, when given, overrides the statement's own
conflict resolution. -/
def changeRows (db : Database) (params : Array SqlValue) (frame : TriggerFrame) (fire : Fire)
    (outer : Option Resolution) : Statement → Change Changed
  | .insert ctes res table aliasName columns source upserts returning =>
    let res := outer.orElse fun _ => res
    match db.triggeredView table .insert with
    | some v => db.insertIntoView params frame fire ctes res v columns source
    | none => db.insert params frame fire ctes res table aliasName columns source upserts returning
  | .update ctes res table aliasName sets source filter returning =>
    let res := outer.orElse fun _ => res
    match db.triggeredView table (.update []) with
    | some v => db.updateView params frame fire ctes res v aliasName sets filter
    | none => db.update params frame fire ctes res table aliasName sets source filter returning
  | .delete ctes table aliasName filter returning =>
    match db.triggeredView table .delete with
    | some v => db.deleteFromView params frame fire ctes outer v aliasName filter
    | none => db.delete params frame fire ctes outer table aliasName filter returning
  | _ => pure { db, count := 0 }

end Database

/-- What a failure inside a trigger becomes: RAISE(IGNORE) ends the trigger
quietly, the other RAISEs resolve as they say (FAIL keeps the database as it
is now); any other failure passes on. -/
def raiseOutcome (db : Database) (stop : Stop) : Change (Database × Bool) :=
  let plain := { stop.error with raised := none }
  match stop.error.raised with
  | some .ignore => pure (db, false)
  | some .fail => throw { stop with kept := some db, error := plain }
  | some .rollback => throw { stop with rollback := true, error := plain }
  | some _ => throw { stop with error := plain }
  | none => throw stop

/-- Runs one statement of a trigger's body; the rows it changes count in the
total of changes. -/
def bodyStatement (db : Database) (frame : TriggerFrame) (fire : Fire) (outer : Option Resolution)
    (st : Statement) : Change Database :=
  match st with
  | .query q => do
    let r ← lift (Resolve.resolveQueryIn db frame.levels none q)
    let (_, db) ← lift (db.runEval #[] (runPlan 100000 frame.scopes r.plan))
    pure db
  | st => do
    let done ← db.changeRows #[] frame fire outer st
    pure { done.db with totalChanges := done.db.totalChanges + done.count }

/-- Whether a trigger's WHEN holds for its row event. -/
def whenHolds (db : Database) (frame : TriggerFrame) (tr : Trigger) : Change (Bool × Database) :=
  match tr.condition with
  | none => pure (true, db)
  | some c => do
    let ts ← lift (Resolve.resolveIn db frame.levels [] [c])
    match ts with
    | [(term, _)] =>
      let (v, db) ← lift (db.runEval #[] (evalTerm 100000 frame.scopes term))
      pure (v.truthOr false, db)
    | _ => pure (false, db)

/-- Runs one trigger for a row event: the database after it, and false when
it ended in RAISE(IGNORE). -/
def runTrigger (db : Database) (frame : TriggerFrame) (fire : Fire) (outer : Option Resolution)
    (tr : Trigger) : Change (Database × Bool) := do
  match whenHolds db frame tr with
  | .error stop => raiseOutcome db stop
  | .ok (false, db) => pure (db, true)
  | .ok (true, db) =>
    let mut db := db
    for st in tr.body do
      match bodyStatement db frame fire outer st with
      | .ok db' => db := db'
      | .error stop =>
        let (db', go) ← raiseOutcome db stop
        if !go then return (db', false)
    return (db, true)

/-- Fires the triggers of a row event, newest first, leaving out those in
`active` (the triggers running); at most `fuel` triggers deep. -/
def fireTriggers : Nat → List String → Fire
  | 0, _ => fun _ _ => stopWith (.general "too many levels of trigger recursion")
  | fuel + 1, active => fun db ev => do
    let frame := ev.frame
    let saved := db.lastRowid
    let mut db := db
    for tr in db.triggers.reverse do
      if tr.firesOn ev && !active.any (sameName · tr.name) then
        let (db', go) ← runTrigger db frame (fireTriggers fuel (tr.name :: active)) ev.resolution tr
        db := db'
        if !go then return ({ db with lastRowid := saved }, false)
    return ({ db with lastRowid := saved }, true)

/-- The triggers a statement that changes rows fires: as deep as the engine
allows. -/
def statementTriggers : Fire := fireTriggers 1000 []

end ReportExport.Sql
