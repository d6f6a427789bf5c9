import ReportExport.Proofs.Store.Creation
import ReportExport.Proofs.Text.Strict
import ReportExport.Proofs.Json.Fields
import ReportExport.Proofs.Json.RoundTrip

/-!
# Reading a record back from its row

The repository reads a record from a result row by column name: the status
and the bindings first, which can make a record corrupt, then the other
columns. This module states that the row the store keeps for a record,
under the names of the record's columns (`ExportRecord.columnNames`), reads back as
the record (`readRecord_values`), for every record whose bindings' JSON text
reads back (`ExportRecord.Readable`). Every text column reads back because
the strict UTF-8 reading gives back every string (`decodeStrict_bytesOf`).
-/

namespace ReportExport

open Sql Store Text

namespace Store

@[simp] theorem except_mapError_ok {ε ε' α : Type} (f : ε → ε') (a : α) :
    (Except.ok a : Except ε α).mapError f = .ok a := rfl

namespace ResultRow

/-! ## Typed reads of a column -/

variable (row : ResultRow) (n : String)

theorem text_ofString {s : String} (h : row.value? (.name n) = .ok (.ofString s)) : row.text n = .ok s := by
  simp only [ResultRow.text, h, except_ok_bind, SqlValue.ofString, columnText, decodeStrict_bytesOf]

theorem textOpt_optText {s : Option String} (h : row.value? (.name n) = .ok (optText s)) : row.textOpt n = .ok s := by
  cases s with
  | none => simp only [ResultRow.textOpt, h, except_ok_bind, optText]; rfl
  | some s =>
    simp only [ResultRow.textOpt, h, except_ok_bind, optText, SqlValue.ofString, columnText, decodeStrict_bytesOf]
    rfl

theorem int_integer {i : Int} (h : row.value? (.name n) = .ok (.integer i)) : row.int n = .ok i := by
  simp only [ResultRow.int, h]
  rfl

theorem intOpt_optInteger {i : Option Int} (h : row.value? (.name n) = .ok (optInteger i)) :
    row.intOpt n = .ok i := by
  cases i with
  | none => simp only [ResultRow.intOpt, h, optInteger]; rfl
  | some i => simp only [ResultRow.intOpt, h, optInteger]; rfl

end ResultRow

/-! ## The status and the bindings -/

@[simp] theorem ExportStatus.ofToken?_token (s : ExportStatus) : ExportStatus.ofToken? s.token = some s := by
  cases s <;> rfl

theorem readStatus_token (s : ExportStatus) : readStatus s.token = .ok s := by
  simp only [readStatus, ExportStatus.ofToken?_token]

/-- Bindings as the store writes them: a JSON array whose text reads back. -/
structure BindingsReread (bs : List Json) : Prop where
  numbers : (Json.arr bs).Rereads
  deep : (Json.arr bs).nesting < JsonText.depthLimit
  unique : ∀ b ∈ bs, b.KeysUnique

theorem readBindings_compact {bs : List Json} (reread : BindingsReread bs) :
    readBindings (Json.arr bs).compact = .ok bs := by
  obtain ⟨span, spanned⟩ := JsonText.readSpanned_compact (Json.arr bs) reread.numbers reread.deep
  have items : Json.asListOf Json.asValue (.arr (bs.map id)) = .ok bs :=
    Json.asListOf_map id fun b held => by
      show Json.asValue b = .ok b
      rw [Json.asValue, Json.merged_of_keysUnique b (reread.unique b held)]
  rw [List.map_id] at items
  simp only [readBindings, decodeText, spanned, items]
  rfl

end Store

/-- A record whose row reads back: its bindings' JSON text reads back. -/
def ExportRecord.Readable (r : ExportRecord) : Prop := BindingsReread r.queryBindings

/-- The row the store keeps for a record, under the names of its columns,
reads back as the record. -/
theorem readRecord_values (r : ExportRecord) (readable : r.Readable) :
    readRecord ⟨ExportRecord.columnNames, r.values.toList⟩ = .ok r := by
  let row : ResultRow := ⟨ExportRecord.columnNames, r.values.toList⟩
  -- each column is found under its name; the reads are then the typed ones
  have status : row.text "status" = .ok r.status.token := ResultRow.text_ofString row _ rfl
  have bindings : row.text "query_bindings" = .ok (Json.arr r.queryBindings).compact :=
    ResultRow.text_ofString row _ rfl
  have id : row.int "id" = .ok r.id := ResultRow.int_integer row _ rfl
  have reportKind : row.text "report_kind" = .ok r.reportKind := ResultRow.text_ofString row _ rfl
  have descriptor : row.text "descriptor" = .ok r.descriptorText := ResultRow.text_ofString row _ rfl
  have querySql : row.text "query_sql" = .ok r.querySql := ResultRow.text_ofString row _ rfl
  have rows : row.int "rows_processed" = .ok r.rowsProcessed := ResultRow.int_integer row _ rfl
  have total : row.intOpt "total_rows" = .ok r.totalRows := ResultRow.intOpt_optInteger row _ rfl
  have started : row.intOpt "started_at" = .ok r.startedAt := ResultRow.intOpt_optInteger row _ rfl
  have completed : row.intOpt "completed_at" = .ok r.completedAt := ResultRow.intOpt_optInteger row _ rfl
  have failed : row.intOpt "failed_at" = .ok r.failedAt := ResultRow.intOpt_optInteger row _ rfl
  have message : row.textOpt "error_message" = .ok r.errorMessage := ResultRow.textOpt_optText row _ rfl
  have retried : row.intOpt "retried_from_id" = .ok r.retriedFromId := ResultRow.intOpt_optInteger row _ rfl
  have disk : row.text "disk" = .ok r.disk := ResultRow.text_ofString row _ rfl
  have path : row.text "path" = .ok r.path := ResultRow.text_ofString row _ rfl
  have queue : row.text "queue" = .ok r.queue := ResultRow.text_ofString row _ rfl
  have connection : row.textOpt "connection" = .ok r.connection := ResultRow.textOpt_optText row _ rfl
  have jobId : row.textOpt "job_id" = .ok r.jobId := ResultRow.textOpt_optText row _ rfl
  have created : row.int "created_at" = .ok r.createdAt := ResultRow.int_integer row _ rfl
  have updated : row.int "updated_at" = .ok r.updatedAt := ResultRow.int_integer row _ rfl
  show readRecord row = _
  simp only [readRecord, status, bindings, id, reportKind, descriptor, querySql, rows, total, started, completed,
    failed, message, retried, disk, path, queue, connection, jobId, created, updated, except_mapError_ok,
    except_ok_bind, readStatus_token, readBindings_compact readable]
  rfl

end ReportExport
