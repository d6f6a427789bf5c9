import ReportExport.Api.Collections
import ReportExport.Report.Descriptor
import ReportExport.Export.Record
import ReportExport.Export.Csv
import ReportExport.Export.Job

/-!
# The JSON command interface: report and export values

Header maps, descriptors, paths, statuses, progress, CSV output and job
payloads, each built from a request and shown as a view.
-/

namespace ReportExport.Api

/-- Reads `[column, label]` string pairs. -/
def headerPairs (items : List Json) : Except String (List (String × String)) :=
  items.mapM fun
    | .arr [.str c, .str l] => .ok (c, l)
    | _ => .error "headers must be [column, label] string pairs"

/-- The header map of a request: from `pairs`, else from `json`; the inner
result is serde's message for `json` that does not decode. -/
def headersOf (req : Json) : Except String (Except String HeaderMap) := do
  match ← arrOpt req "pairs" with
  | some items => return .ok (HeaderMap.ofPairs (← headerPairs items))
  | none =>
    match req.get? "json" with
    | some j => return decodeValue j HeaderMap.decode
    | none => return .ok {}

/-- `headers`: a header map and the labels of some columns. -/
def headersOp (req : Json) : Handler := do
  match ← headersOf req with
  | .error m => return decodeFailure m
  | .ok h =>
    let lookups := ((← arrOpt req "lookups").getD []).filterMap Json.str?
    return ok (.obj [("len", .nat h.size), ("is_empty", .bool h.isEmpty),
      ("entries", .arr (h.entries.map (fun (c, l) => .arr [.str c, .str l]))),
      ("serialized", h.toJson), ("labels", .arr (lookups.map (fun c => .str (h.labelFor c))))])

/-- `descriptor`: decodes a descriptor and shows its stored form, output path
and filter collection. -/
def descriptorOp (req : Json) : Handler := do
  match decodeValue ((req.get? "json").getD .null) ReportDescriptor.decode with
  | .error m => return decodeFailure m
  | .ok d =>
    return ok (.obj [("serialized", d.toJson), ("output_path", .str d.outputPath),
      ("collection", collectionView (settingsOf req) d.filterCollection)])

/-- `join_path`: a directory and a file name joined. -/
def joinPathOp (req : Json) : Handler := do
  return ok (.str (joinPath (← str req "directory") (← str req "filename")))

/-- The view of a status. -/
def statusView (s : ExportStatus) : Json :=
  .obj [("as_str", .str s.token), ("display", .str s.token), ("label", .str s.label),
    ("is_finished", .bool s.isFinished), ("is_running", .bool s.isRunning),
    ("predecessors", .arr (s.predecessors.map (fun p => .str p.token))),
    ("can_transition_to", .obj (ExportStatus.all.map (fun n => (n.token, .bool (s.canTransitionTo n))))),
    ("serialized", .str s.token)]

/-- `status`: reads a status token. -/
def statusOp (req : Json) : Handler := do
  let token ← str req "token"
  match ExportStatus.ofToken? token with
  | some s => return ok (statusView s)
  | none => return failure "UnknownStatus" (ExportStatus.unknownMessage token)

/-- `progress`: the progress of a record with the given counts and status. -/
def progressOp (req : Json) : Handler := do
  let rows ← int req "rows_processed"
  let total ← intOpt req "total_rows"
  let token := (← strOpt req "status").getD "processing"
  match ExportStatus.ofToken? token with
  | none => return failure "UnknownStatus" (ExportStatus.unknownMessage token)
  | some status =>
    let r : ExportRecord :=
      { id := 1, reportKind := "", descriptorText := "", querySql := "", queryBindings := [],
        status := status, rowsProcessed := rows, totalRows := total, disk := "", path := "",
        queue := "" }
    return ok (.obj [("percentage", Json.opt Json.float r.progressPercentage),
      ("is_finished", .bool r.isFinished), ("is_running", .bool r.isRunning),
      ("can_retry", .bool r.canRetry)])

/-- `csv`: writes rows through a sink. -/
def csvOp (req : Json) : Handler := do
  let headers := HeaderMap.ofPairs (← headerPairs ((← arrOpt req "headers").getD []))
  let rows ← (← arr req "rows").mapM fun
    | .obj ms => .ok ms
    | _ => .error "rows must be objects"
  let (sink, counts) := rows.foldl
    (fun (s, counts) row => let s := s.writeRow row; (s, counts ++ [Json.nat s.rows]))
    (CsvSink.create headers, [])
  return ok (.obj [("csv", .str sink.text), ("rows", .nat sink.rows), ("counts", .arr counts)])

/-- The message of a payload that is not a job. -/
def payloadMessage (serde : String) : String := "Invalid job payload: " ++ serde

/-- `job_payload`: reads the export id of a job payload. -/
def jobPayloadOp (req : Json) : Handler := do
  match decodeValue ((req.get? "payload").getD .null) ExportJob.decode with
  | .error m => return failure "QueueError.Payload" (payloadMessage m)
  | .ok id => return ok (.obj [("export_id", .int id), ("payload", ExportJob.payload id)])

end ReportExport.Api
