import ReportExport.Api.Handle
import ReportExport.Main
import ReportExport.Proofs.Export.CsvLayout
import ReportExport.Proofs.Export.Interleaving
import ReportExport.Proofs.Export.LiveJobs
import ReportExport.Proofs.Export.Streaming
import ReportExport.Proofs.Filter.Entries
import ReportExport.Proofs.Query.Compilation
import ReportExport.Proofs.Query.Pattern
import ReportExport.Proofs.Query.RawSql
import ReportExport.Proofs.Query.Truth
import ReportExport.Proofs.QueryString.Stringified
