import ReportExport.Proofs.Store.Schema

/-!
# The store as a table of records

The table `report_exports` holds one row per export record: its twenty
columns, the id first, which is also the rowid. This module writes a record
as the row the store keeps (`ExportRecord.values`) and states `Stores`: the
store is open, migrated, and its export rows are those of a list of records
in id order, with the AUTOINCREMENT mark at the last id.

It also gathers what the statements of the repository compute on such rows:
the value a column holds, how the comparisons the statements make come out
on integers and status tokens, and the truth of AND over two known truths.
-/

namespace ReportExport.Sql

open Text

/-! ## Values under the store's affinities -/

@[simp] theorem SqlValue.stored_null (a : Affinity) : SqlValue.null.stored a = .null := by
  cases a <;> rfl

@[simp] theorem SqlValue.stored_text (b : Bytes) : (SqlValue.text b).stored .text = .text b := rfl

@[simp] theorem SqlValue.stored_integer (i : Int) : (SqlValue.integer i).stored .integer = .integer i := rfl

@[simp] theorem SqlValue.truth?_ofTruth (b : Bool) : (ofTruth (some b)).truth? = some b := by
  cases b <;> rfl

@[simp] theorem SqlValue.truthOr_ofTruth (b d : Bool) : (ofTruth (some b)).truthOr d = b := by
  cases b <;> rfl

/-- Byte strings compare equal exactly when they are equal. -/
theorem compareBytes_eq_iff : ∀ {a b : Bytes}, compareBytes a b = .eq ↔ a = b
  | [], [] => by simp [compareBytes]
  | [], _ :: _ => by simp [compareBytes]
  | _ :: _, [] => by simp [compareBytes]
  | x :: xs, y :: ys => by
    by_cases hlt : x < y
    · have hne : x ≠ y := fun h => by subst h; exact UInt8.lt_irrefl x hlt
      simp [compareBytes, hlt, hne]
    · by_cases hgt : y < x
      · have hne : x ≠ y := fun h => by subst h; exact UInt8.lt_irrefl x hgt
        simp [compareBytes, hlt, hgt, hne]
      · have hxy : x = y := by
          rw [UInt8.lt_iff_toNat_lt] at hlt hgt
          exact UInt8.toNat_inj.1 (by omega)
        simp [compareBytes, hxy, compareBytes_eq_iff]

theorem compareUnder_integer (coll : Collation) (a b : Int) :
    compareUnder ⟨.integer, coll⟩ (.integer a) (.integer b) = some (compare a b) := rfl

/-- Equality of integers under integer affinity. -/
@[simp] theorem compareValues_eq_integer (coll : Collation) (a b : Int) :
    compareValues .eq ⟨.integer, coll⟩ (.integer a) (.integer b) = ofTruth (some (a == b)) := by
  simp only [compareValues, compareUnder_integer, Comparison.holds]
  by_cases h : a = b
  · simp [h, ofTruth]
  · simp [h, ofTruth]

/-- Order of integers under integer affinity. -/
@[simp] theorem compareValues_ge_integer (coll : Collation) (a b : Int) :
    compareValues .ge ⟨.integer, coll⟩ (.integer a) (.integer b) = ofTruth (some (decide (b ≤ a))) := by
  simp only [compareValues, compareUnder_integer, Comparison.holds]
  by_cases h : b ≤ a
  · simp [h, ofTruth, Int.compare_eq_lt, Int.not_lt.2 h]
  · simp [h, ofTruth, Int.compare_eq_lt, Int.lt_of_not_ge h]

end ReportExport.Sql

namespace ReportExport

open Sql Store Text

/-! ## A record as a row -/

namespace ExportRecord

/-- The row the store keeps for a record: its columns in table order, the id
first. -/
def values (r : ExportRecord) : Array SqlValue :=
  #[.integer r.id, .ofString r.reportKind, .ofString r.descriptorText, .ofString r.querySql,
    .ofString (Json.arr r.queryBindings).compact, .ofString r.status.token, .integer r.rowsProcessed,
    optInteger r.totalRows, optInteger r.startedAt, optInteger r.completedAt, optInteger r.failedAt,
    optText r.errorMessage, optInteger r.retriedFromId, .ofString r.disk, .ofString r.path, .ofString r.queue,
    optText r.connection, optText r.jobId, .integer r.createdAt, .integer r.updatedAt]

/-- The names of the columns of `values`: the result columns of the
repository's reads. -/
def columnNames : List String :=
  ["id", "report_kind", "descriptor", "query_sql", "query_bindings", "status", "rows_processed", "total_rows",
    "started_at", "completed_at", "failed_at", "error_message", "retried_from_id", "disk", "path", "queue",
    "connection", "job_id", "created_at", "updated_at"]

/-- A record as a stored row, under its id. -/
def row (r : ExportRecord) : StoredRow := (r.id, r.values)

/-- The row of a record as the statements of the repository see it. -/
def scope (r : ExportRecord) : Scope := exportsTable.scopeOf r.id r.values

end ExportRecord

/-- The AUTOINCREMENT marks of a store whose export records are `recs`: none
before the first record, the last id after. -/
def sequenceRows (recs : List ExportRecord) : Array StoredRow :=
  match recs.getLast? with
  | none => #[]
  | some r => #[(1, #[.ofString "report_exports", .integer r.id])]

/-- Every record that names a record it retries names one that is stored. -/
def Linked (recs : List ExportRecord) : Prop :=
  ∀ r ∈ recs, ∀ p, r.retriedFromId = some p → ∃ q ∈ recs, q.id = p

/-- The store is open and holds exactly the export records `recs`, in id
order, with the AUTOINCREMENT mark at the last id; every record it retries is
stored, as the foreign key demands. -/
structure Stores (s : RecordStore) (recs : List ExportRecord) : Prop where
  isOpen : s.closed = false
  migrated : Migrated s.conn.db (recs.map ExportRecord.row).toArray (sequenceRows recs)
  ascending : (recs.map (·.id)).Pairwise (· < ·)
  linked : Linked recs

/-! ## The repository's terms on a record's row -/

/-- The literal of a status token. -/
def statusTerm (s : ExportStatus) : PureTerm := .value (.text s.token)

/-- The CHECK constraint on the status: one of the five tokens. -/
def statusCheckTerm : PureTerm :=
  .inList (.column 0 6) (PureTerms.ofList (ExportStatus.all.map statusTerm)) .text .binary false

/-- The guard of a change of status to `next`, as the engine resolves it: a
status IN a list of one token is an equality. -/
def guardTerm (next : ExportStatus) : PureTerm :=
  match next.predecessors with
  | [p] => .compare .eq (.column 0 6) (statusTerm p) .text .binary
  | ps => .inList (.column 0 6) (PureTerms.ofList (ps.map statusTerm)) .text .binary false

theorem compareUnder_text (a b : Bytes) :
    compareUnder ⟨.text, .binary⟩ (.text a) (.text b) = some (compareBytes a b) := rfl

/-- Status tokens compare equal under the binary collation exactly when they
are one status. -/
theorem ExportStatus.compareBytes_token (s t : ExportStatus) :
    compareBytes (bytesOf s.token) (bytesOf t.token) = .eq ↔ s = t := by
  rw [compareBytes_eq_iff]
  cases s <;> cases t <;> decide +kernel

@[simp] theorem ExportStatus.compareUnder_token (s t : ExportStatus) :
    compareUnder ⟨.text, .binary⟩ (.ofString s.token) (.ofString t.token) = some .eq ↔ s = t := by
  rw [SqlValue.ofString, SqlValue.ofString, compareUnder_text, Option.some.injEq, compareBytes_token]

@[simp] theorem compareValues_eq_token (s t : ExportStatus) :
    compareValues .eq ⟨.text, .binary⟩ (.ofString s.token) (.ofString t.token) = ofTruth (some (decide (s = t))) := by
  rw [SqlValue.ofString, SqlValue.ofString]
  simp only [compareValues, compareUnder_text, Comparison.holds]
  by_cases h : s = t <;> simp [h, ExportStatus.compareBytes_token, ofTruth]

@[simp] theorem SqlValue.isNull_ofString (s : String) : (SqlValue.ofString s).isNull = false := rfl

@[simp] theorem eval_statusTerm (s : ExportStatus) (params : Array SqlValue) (env : Env) :
    (statusTerm s).eval params env = .ofString s.token := rfl

namespace ExportRecord

variable (r : ExportRecord) (params : Array SqlValue)

@[simp] theorem scope_row : r.scope.row = #[.integer r.id] ++ r.values := rfl

theorem eval_column (k : Nat) : (PureTerm.column 0 (k + 1)).eval params [r.scope] = r.values[k]?.getD .null := by
  simp [PureTerm.eval, scopeAt, Array.getElem?_append]

@[simp] theorem eval_id : (PureTerm.column 0 1).eval params [r.scope] = .integer r.id := by
  simp [r.eval_column params 0, values]

@[simp] theorem eval_status : (PureTerm.column 0 6).eval params [r.scope] = .ofString r.status.token := by
  simp [r.eval_column params 5, values]

/-- A status IN a list of status literals. -/
theorem eval_statusIn (ps : List ExportStatus) :
    (PureTerm.inList (.column 0 6) (PureTerms.ofList (ps.map statusTerm)) .text .binary false).eval params
      [r.scope] = ofTruth (some (ps.contains r.status)) := by
  rw [PureTerm.eval, eval_status]
  by_cases hin : r.status ∈ ps <;> simp [hin]

/-- The guard of a change to `next` holds of a record exactly when its status
may move to `next`. -/
theorem truth_guard (next : ExportStatus) :
    ((guardTerm next).eval params [r.scope]).truth? = some (r.status.canTransitionTo next) := by
  unfold guardTerm
  cases next <;> simp only [ExportStatus.predecessors]
  case pending | failed =>
    rw [eval_statusIn]
    simp [ExportStatus.canTransitionTo, ExportStatus.predecessors]
  all_goals
    rw [PureTerm.eval, eval_status, eval_statusTerm, compareValues_eq_token]
    simp [ExportStatus.canTransitionTo, ExportStatus.predecessors]

/-- The status of a stored record is always one of the five tokens. -/
theorem truth_statusCheck : (statusCheckTerm.eval params [r.scope]).truth? = some true := by
  rw [statusCheckTerm, eval_statusIn]
  cases r.status <;> rfl

end ExportRecord

end ReportExport
