import ReportExport.Report.Kind
import ReportExport.Report.Descriptor
import ReportExport.Config.Settings
import ReportExport.Text.Quoted
import ReportExport.Json.Print

/-!
# Report definitions

A definition wraps a report with the caller's choices: filters, the disk, the
directory, the file name, the streaming mode and the chunk size. Choices left
open are resolved against the export settings when the definition is frozen
into a descriptor: the disk and directory from the settings, the file name
from the report, and the chunk size from the first that is set of the
definition's, the report's and the settings', never below 1.

Restoring a descriptor around a rebuilt report gives a definition with every
choice set, so that freezing it again gives the same descriptor.

The debug text of a definition names the kind, the filters and the choices
the definition itself makes, unresolved.
-/

namespace ReportExport

open Query Config

/-- A report with the caller's choices. -/
structure ReportDefinition where
  report : Report
  filters : FilterCollection := {}
  disk : Option String := none
  directory : Option String := none
  filename : Option String := none
  mode : StreamMode := .chunked
  chunkSize : Option Nat := none
  deriving Inhabited

namespace ReportDefinition

/-- The header labels of the report. -/
def headers (d : ReportDefinition) : HeaderMap := d.report.headers

/-- The file name: the definition's, else the report's. -/
def fileName (d : ReportDefinition) : String := d.filename.getD d.report.filename

/-- The disk: the definition's, else the settings'. -/
def diskIn (d : ReportDefinition) (s : ExportSettings) : String := d.disk.getD s.disk

/-- The directory: the definition's, else the settings'. -/
def directoryIn (d : ReportDefinition) (s : ExportSettings) : String := d.directory.getD s.directory

/-- The batch size: the definition's, else the report's, else the settings';
at least 1. -/
def chunkSizeIn (d : ReportDefinition) (s : ExportSettings) : Nat :=
  max 1 ((d.chunkSize <|> d.report.chunkSize).getD s.chunkSize)

/-- Where the file goes on its disk. -/
def outputPath (d : ReportDefinition) (s : ExportSettings) : String :=
  joinPath (d.directoryIn s) d.fileName

/-- The report's query with every filter applied. -/
def buildQuery (d : ReportDefinition) : Except ReportError QuerySource := do
  let source ← d.report.query.mapError .query
  (source.applyAll d.filters.filters).mapError .compile

/-- Freezes the definition, resolving open choices from the settings. -/
def descriptor (d : ReportDefinition) (s : ExportSettings) : ReportDescriptor :=
  { kind := d.report.kind, arguments := d.report.arguments, filters := d.filters.filters,
    filterGroup := d.filters.group, disk := d.diskIn s, directory := d.directoryIn s,
    filename := d.fileName, mode := d.mode, chunkSize := d.chunkSizeIn s }

/-- The definition a descriptor captures, around a rebuilt report. -/
def restore (report : Report) (desc : ReportDescriptor) : ReportDefinition :=
  { report, filters := desc.filterCollection, disk := some desc.disk,
    directory := some desc.directory, filename := some desc.filename, mode := desc.mode,
    chunkSize := some desc.chunkSize }

end ReportDefinition

/-! ## Debug text -/

/-- The debug text of an optional value. -/
def debugOption {α : Type} (f : α → String) : Option α → String
  | some a => "Some(" ++ f a ++ ")"
  | none => "None"

mutual
/-- The debug text of a JSON value: the variant wrapping its contents. -/
def Json.debugText : Json → String
  | .null => "Null"
  | .bool b => "Bool(" ++ toString b ++ ")"
  | .num n => "Number(" ++ n.text ++ ")"
  | .str s => "String(" ++ Text.debugQuote s ++ ")"
  | .arr items => "Array [" ++ Json.debugItems items ++ "]"
  | .obj members => "Object \x7b" ++ Json.debugMembers members ++ "\x7d"

/-- The debug texts of array items, joined by commas. -/
def Json.debugItems : List Json → String
  | [] => ""
  | [x] => Json.debugText x
  | x :: rest => Json.debugText x ++ ", " ++ Json.debugItems rest

/-- The debug texts of object members, joined by commas. -/
def Json.debugMembers : List (String × Json) → String
  | [] => ""
  | [(k, v)] => Text.debugQuote k ++ ": " ++ Json.debugText v
  | (k, v) :: rest => Text.debugQuote k ++ ": " ++ Json.debugText v ++ ", " ++ Json.debugMembers rest
end

/-- The debug text of a filter. -/
def Filter.debugText (f : Filter) : String :=
  "Filter \x7b column: " ++ Text.debugQuote f.column ++ ", comparator: " ++
    f.comparator.variantName ++ ", value: " ++ debugOption Json.debugText f.value ++ " \x7d"

/-- The debug text of a filter collection. -/
def FilterCollection.debugText (c : FilterCollection) : String :=
  "FilterCollection \x7b filters: [" ++ ", ".intercalate (c.filters.map Filter.debugText) ++
    "], group: " ++ debugOption Text.debugQuote c.group ++ " \x7d"

/-- The debug text of a definition; the file name is not part of it. -/
def ReportDefinition.debugText (d : ReportDefinition) : String :=
  "ReportDefinition \x7b kind: " ++ Text.debugQuote d.report.kind ++ ", filters: " ++
    d.filters.debugText ++ ", disk: " ++ debugOption Text.debugQuote d.disk ++
    ", directory: " ++ debugOption Text.debugQuote d.directory ++ ", mode: " ++
    d.mode.variantName ++ ", chunk_size: " ++ debugOption (fun n => toString n) d.chunkSize ++ " \x7d"

end ReportExport
