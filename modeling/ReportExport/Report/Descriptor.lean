import ReportExport.Filter.Collection

/-!
# Report descriptors

A descriptor is the frozen state of a report at dispatch time: its kind and
arguments, its filters and group, where the file goes, how rows are streamed
and the chunk size. It is stored as JSON text with the fields in declaration
order (`filter_group` left out when absent), and a worker rebuilds the report
from it.
-/

namespace ReportExport

/-- How rows are fetched: in windows of the chunk size, or all at once. -/
inductive StreamMode where
  | chunked
  | bulk
  deriving Repr, DecidableEq, Inhabited

/-- The mode's token. -/
def StreamMode.token : StreamMode → String
  | .chunked => "chunked"
  | .bulk => "bulk"

/-- The mode's name in diagnostic output. -/
def StreamMode.variantName : StreamMode → String
  | .chunked => "Chunked"
  | .bulk => "Bulk"

/-- Joins a directory and a file name; slashes at either end of the directory
are dropped, and an empty directory leaves the file name alone. -/
def joinPath (directory filename : String) : String :=
  let trimmed := ((directory.toList.dropWhile (· == '/')).reverse.dropWhile (· == '/')).reverse
  if trimmed.isEmpty then filename else String.ofList trimmed ++ "/" ++ filename

/-- The frozen state of a report. -/
structure ReportDescriptor where
  kind : String
  arguments : Json
  filters : List Filter := []
  filterGroup : Option String := none
  disk : String
  directory : String
  filename : String
  mode : StreamMode := .chunked
  chunkSize : Nat
  deriving Inhabited

namespace ReportDescriptor

/-- Equal in every field. -/
def beq (a b : ReportDescriptor) : Bool :=
  a.kind == b.kind && a.arguments == b.arguments && a.filters == b.filters &&
  a.filterGroup == b.filterGroup && a.disk == b.disk && a.directory == b.directory &&
  a.filename == b.filename && a.mode == b.mode && a.chunkSize == b.chunkSize

instance : BEq ReportDescriptor := ⟨beq⟩

/-- The filters as a collection with the descriptor's group. -/
def filterCollection (d : ReportDescriptor) : FilterCollection :=
  { filters := d.filters, group := d.filterGroup }

/-- Where the file goes on its disk. -/
def outputPath (d : ReportDescriptor) : String := joinPath d.directory d.filename

/-- The stored form. -/
def toJson (d : ReportDescriptor) : Json :=
  .obj ([("kind", .str d.kind), ("arguments", d.arguments),
         ("filters", .arr (d.filters.map Filter.toJson))] ++
        (match d.filterGroup with
         | some g => [("filter_group", .str g)]
         | none => []) ++
        [("disk", .str d.disk), ("directory", .str d.directory), ("filename", .str d.filename),
         ("mode", .str d.mode.token), ("chunk_size", .nat d.chunkSize)])

/-- Decodes a mode token. -/
def decodeMode : Json → Decoded StreamMode :=
  Json.asVariant [("chunked", .chunked), ("bulk", .bulk)]

/-- Decodes the stored form: an object by field names, or an array by position. -/
def decode (j : Json) : Decoded ReportDescriptor :=
  let filtersOf := Json.asListOf Filter.decode
  let anyValue : Json → Decoded Json := Json.asValue
  match j with
  | .obj ms => do
    let fs : Fields := ⟨ms⟩
    fs.check [.of "kind" Json.asString, .of "arguments" anyValue, .of "filters" filtersOf,
      .of "filter_group" (Json.asOption Json.asString), .of "disk" Json.asString,
      .of "directory" Json.asString, .of "filename" Json.asString, .of "mode" decodeMode,
      .of "chunk_size" Json.asUsize]
    let kind ← fs.required "kind" Json.asString
    let arguments ← fs.required "arguments" anyValue
    let filters ← fs.withDefault "filters" [] filtersOf
    let filterGroup ← fs.optional "filter_group" Json.asString
    let disk ← fs.required "disk" Json.asString
    let directory ← fs.required "directory" Json.asString
    let filename ← fs.required "filename" Json.asString
    let mode ← fs.withDefault "mode" .chunked decodeMode
    let chunkSize ← fs.required "chunk_size" Json.asUsize
    pure { kind, arguments, filters, filterGroup, disk, directory, filename, mode, chunkSize }
  | .arr items => do
    let it : Items := ⟨items, "struct ReportDescriptor with 9 elements"⟩
    let kind ← it.required 0 Json.asString
    let arguments ← it.required 1 anyValue
    let filters ← it.withDefault 2 [] filtersOf
    let filterGroup ← it.withDefault 3 none (Json.asOption Json.asString)
    let disk ← it.required 4 Json.asString
    let directory ← it.required 5 Json.asString
    let filename ← it.required 6 Json.asString
    let mode ← it.withDefault 7 .chunked decodeMode
    let chunkSize ← it.required 8 Json.asUsize
    it.noneBeyond 9
    pure { kind, arguments, filters, filterGroup, disk, directory, filename, mode, chunkSize }
  | _ => j.invalidType "struct ReportDescriptor"

end ReportDescriptor

end ReportExport
