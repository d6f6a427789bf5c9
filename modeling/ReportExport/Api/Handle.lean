import ReportExport.Api.Queries
import ReportExport.Api.Reports
import ReportExport.Api.Config
import ReportExport.Api.Queue
import ReportExport.Api.Disk
import ReportExport.Api.Exports
import ReportExport.Api.App

/-!
# The JSON command interface: dispatch

Reads the operation name of a request and hands it to its handler.
-/

namespace ReportExport.Api

/-- The answer to one request. -/
def answer (req : Json) : Json :=
  Handler.answer <| do
    let op ← str req "op"
    match op with
    | "comparator" => comparatorOp req
    | "comparators" => comparatorsOp
    | "filter_make" => filterMakeOp req
    | "filter_from_parts" => filterFromPartsOp req
    | "filter_decode" => filterDecodeOp req
    | "filter_ctor" => filterCtorOp req
    | "compare_values" => compareValuesOp req
    | "sql" => sqlOp req
    | "collection" => collectionOp req
    | "query_build" => queryBuildOp req
    | "query_parse" => queryParseOp req
    | "matches" => matchesOp req
    | "memory_query" => memoryQueryOp req
    | "headers" => headersOp req
    | "descriptor" => descriptorOp req
    | "join_path" => joinPathOp req
    | "status" => statusOp req
    | "progress" => progressOp req
    | "csv" => csvOp req
    | "job_payload" => jobPayloadOp req
    | "config" => configOp req
    | "config_load" => configLoadOp req
    | "config_default" => configDefaultOp
    | "queue" => queueOp req
    | "disk" => diskOp req
    | "repo" => repoOp req
    | "export" => exportOp req
    | "table_args" => tableArgsOp req
    | "app" => appOp req
    | other => throw ("unknown op '" ++ other ++ "'")

end ReportExport.Api
