import Mathlib
import ReportExport.Proofs.Json.Fields
import ReportExport.Proofs.Report.Headers
import ReportExport.Proofs.Filter.Wire
import ReportExport.Proofs.Store.Creation
import ReportExport.Report.Registry
import ReportExport.Export.Dispatch
import ReportExport.Proofs.Json.Depth

/-!
# Rebuilding a report from its stored descriptor

Dispatching freezes a definition into a descriptor and stores it as compact
JSON text; the worker reads the text back, rebuilds the report from the kind
and arguments through the registry, and restores the descriptor's choices
around it. For a `table` report this gives back exactly what was frozen: the
text reads as the same descriptor, the rebuilt definition freezes to it again
under any settings, and it has the same filters, header labels and query.

Reading back relies on what the stored types promise and JSON text cannot
show: a map has one entry per key, a size fits a machine word, and a number
is printed so that it reads back as itself.
-/

namespace ReportExport

open Store Config

namespace Json

@[simp] theorem asUsize_nat {n : Nat} (fits : n < 2 ^ 64) : asUsize (.nat n) = .ok n := by
  have within : n ≤ 18446744073709551615 := by omega
  simp [asUsize, asIntIn, Json.nat, within]
  rfl

theorem keysUniqueMembers_of_forall {ms : List (String × Json)} (unique : ∀ m ∈ ms, m.2.KeysUnique) :
    KeysUniqueMembers ms := by
  induction ms with
  | nil => trivial
  | cons m ms ih =>
    obtain ⟨k, v⟩ := m
    rw [List.forall_mem_cons] at unique
    exact ⟨unique.1, ih unique.2⟩

end Json

namespace HeaderMap

theorem keysUnique_toJson {h : HeaderMap} (distinct : (h.entries.map Prod.fst).Nodup) :
    h.toJson.KeysUnique :=
  ⟨by rwa [List.map_map],
    Json.keysUniqueMembers_of_forall fun m mem => by
      obtain ⟨e, -, rfl⟩ := List.mem_map.mp mem
      trivial⟩

end HeaderMap

namespace TableArgs

/-- What the stored form of table arguments relies on and the argument types
promise: no object among the bindings repeats a key, the header map has one
label per column, and a chunk size fits a machine word. -/
structure Storable (a : TableArgs) : Prop where
  bindings_keysUnique : ∀ b ∈ a.bindings, b.KeysUnique
  headers_nodup : (a.headers.entries.map Prod.fst).Nodup
  chunkSize_lt : ∀ n ∈ a.chunkSize, n < 2 ^ 64

/-- The members of the stored form, in the order they are written. -/
def storedMembers (a : TableArgs) : List (String × Json) :=
  [("sql", .str a.sql), ("filename", .str a.filename)] ++
    (if a.bindings.isEmpty then [] else [("bindings", .arr a.bindings)]) ++
    Json.optionalMember "order_by" (a.orderBy.map .str) ++
    (if a.headers.isEmpty then [] else [("headers", a.headers.toJson)]) ++
    Json.optionalMember "filterable" (a.filterable.map fun cs => .arr (cs.map .str)) ++
    Json.optionalMember "chunk_size" (a.chunkSize.map .nat)

theorem toJson_eq (a : TableArgs) : a.toJson = .obj a.storedMembers := by
  rcases a with ⟨sql, filename, bindings, _ | o, headers, _ | cs, _ | n⟩ <;> rfl

/-- The stored form names each field at most once, in declaration order. -/
theorem keys_storedMembers_sublist (a : TableArgs) :
    List.Sublist (a.storedMembers.map Prod.fst)
      ["sql", "filename", "bindings", "order_by", "headers", "filterable", "chunk_size"] := by
  have keys : ["sql", "filename", "bindings", "order_by", "headers", "filterable", "chunk_size"] =
      ["sql", "filename"] ++ ["bindings"] ++ ["order_by"] ++ ["headers"] ++ ["filterable"] ++
        ["chunk_size"] := rfl
  rw [keys, storedMembers]
  simp only [List.map_append]
  -- each member but the first two gives its own key or nothing
  refine (((((List.Sublist.refl _).append ?_).append (Json.keys_optionalMember_sublist _ _)).append
    ?_).append (Json.keys_optionalMember_sublist _ _)).append (Json.keys_optionalMember_sublist _ _) <;>
    split <;> simp

theorem nodup_keys_storedMembers (a : TableArgs) : (a.storedMembers.map Prod.fst).Nodup :=
  (keys_storedMembers_sublist a).nodup (by decide)

/-- Table arguments read back from their stored form. -/
theorem decode_toJson {a : TableArgs} (storable : a.Storable) : decode a.toJson = .ok a := by
  have distinct := nodup_keys_storedMembers a
  obtain ⟨_, sqlAt⟩ := Json.memberAt?_of_mem distinct
    (show ("sql", Json.str a.sql) ∈ a.storedMembers by simp [storedMembers])
  obtain ⟨_, filenameAt⟩ := Json.memberAt?_of_mem distinct
    (show ("filename", Json.str a.filename) ∈ a.storedMembers by simp [storedMembers])
  -- each field the stored form may leave out reads as its value, from its
  -- member or as the default
  have bindings := Fields.withDefault_of_written (f := Json.asListOf Json.asValue) distinct "bindings" a.bindings []
    Json.arr (fun given => by simp [storedMembers, given]) (fun given => by simp [storedMembers, given])
    fun _ => by
      have merged : ∀ b ∈ a.bindings, Json.asValue (id b) = .ok b := fun b mem => by
        rw [id, Json.asValue, Json.merged_of_keysUnique b (storable.bindings_keysUnique b mem)]
      simpa using Json.asListOf_map id merged
  have orderBy := Fields.optional_of_written (f := Json.asString) distinct "order_by" a.orderBy Json.str
    (fun _ given => by simp [storedMembers, given]) (fun given => by simp [storedMembers, given])
    fun _ _ => rfl
  have headers := Fields.withDefault_of_written (f := HeaderMap.decode) distinct "headers" a.headers {}
    HeaderMap.toJson
    (fun given => by
      simp only [storedMembers, HeaderMap.isEmpty, List.isEmpty_iff, List.mem_append, List.mem_ite_nil_left]
      exact .inl (.inl (.inr ⟨fun empty => given (congrArg HeaderMap.mk empty), List.mem_singleton_self _⟩)))
    (fun given => by simp [storedMembers, HeaderMap.isEmpty, given])
    fun _ => HeaderMap.decode_toJson storable.headers_nodup
  have filterable := Fields.optional_of_written (f := Json.asListOf Json.asString) distinct "filterable"
    a.filterable
    (fun cs => .arr (cs.map .str)) (fun _ given => by simp [storedMembers, given])
    (fun given => by simp [storedMembers, given]) fun cs _ => by
      show (Json.asListOf Json.asString (.arr (cs.map .str))).map some = _
      rw [Json.asListOf_map Json.str (fun _ _ => rfl)]
      rfl
  have chunkSize := Fields.optional_of_written (f := Json.asUsize) distinct "chunk_size" a.chunkSize
    Json.nat
    (fun _ given => by simp [storedMembers, given]) (fun given => by simp [storedMembers, given])
    fun n given => by
      show (Json.asUsize (.nat n)).map some = _
      rw [Json.asUsize_nat (storable.chunkSize_lt n given)]
      rfl
  rw [toJson_eq, decode]
  rw [Fields.check_eq_ok distinct, Fields.required_of_some (f := Json.asString) sqlAt rfl,
    Fields.required_of_some (f := Json.asString) filenameAt rfl,
    bindings.1, orderBy.1, headers.1, filterable.1, chunkSize.1]
  · rfl
  · simp only [List.forall_mem_cons, List.not_mem_nil, IsEmpty.forall_iff, implies_true, and_true]
    exact ⟨FieldRule.passesOn_of_some sqlAt rfl, FieldRule.passesOn_of_some filenameAt rfl, bindings.2,
      orderBy.2, headers.2, filterable.2, chunkSize.2⟩

/-- The stored form repeats no key, at any depth. -/
theorem keysUnique_toJson {a : TableArgs} (storable : a.Storable) : a.toJson.KeysUnique := by
  rw [toJson_eq]
  refine ⟨nodup_keys_storedMembers a, Json.keysUniqueMembers_of_forall fun m mem => ?_⟩
  obtain ⟨k, v⟩ := m
  simp only [storedMembers, List.isEmpty_iff, List.cons_append, List.nil_append, List.append_assoc,
    List.mem_cons, Prod.mk.injEq, List.mem_append, List.mem_ite_nil_left, List.not_mem_nil, or_false,
    Json.mem_optionalMember, Option.map_eq_some_iff, Bool.not_eq_true] at mem
  -- texts and numbers hold no object; the containers are the bindings, the
  -- header map and the filterable columns
  rcases mem with ⟨-, rfl⟩ | ⟨-, rfl⟩ | ⟨-, -, rfl⟩ | ⟨-, o, -, rfl⟩ | ⟨-, -, rfl⟩ | ⟨-, cs, -, rfl⟩ |
    ⟨-, n, -, rfl⟩
  · trivial
  · trivial
  · exact Json.keysUniqueItems_of_forall storable.bindings_keysUnique
  · trivial
  · exact HeaderMap.keysUnique_toJson storable.headers_nodup
  · exact Json.keysUniqueItems_of_forall fun x mem => by
      obtain ⟨c, -, rfl⟩ := List.mem_map.mp mem
      trivial
  · trivial

end TableArgs

namespace ReportDescriptor

/-- What the stored form of a descriptor relies on: its arguments repeat no
key, its filters are as their constructors leave them, and its chunk size fits
a machine word. -/
structure Storable (desc : ReportDescriptor) : Prop where
  arguments_keysUnique : desc.arguments.KeysUnique
  filters_shaped : ∀ f ∈ desc.filters, f.Shaped
  chunkSize_lt : desc.chunkSize < 2 ^ 64

/-- The members of the stored form, in the order they are written. -/
def storedMembers (desc : ReportDescriptor) : List (String × Json) :=
  [("kind", .str desc.kind), ("arguments", desc.arguments),
    ("filters", .arr (desc.filters.map Filter.toJson))] ++
    Json.optionalMember "filter_group" (desc.filterGroup.map .str) ++
    [("disk", .str desc.disk), ("directory", .str desc.directory), ("filename", .str desc.filename),
      ("mode", .str desc.mode.token), ("chunk_size", .nat desc.chunkSize)]

theorem toJson_eq (desc : ReportDescriptor) : desc.toJson = .obj desc.storedMembers := by
  rcases desc with ⟨kind, arguments, filters, _ | g, disk, directory, filename, mode, chunkSize⟩ <;> rfl

theorem nodup_keys_storedMembers (desc : ReportDescriptor) : (desc.storedMembers.map Prod.fst).Nodup := by
  have keys : List.Sublist (desc.storedMembers.map Prod.fst)
      (["kind", "arguments", "filters"] ++ ["filter_group"] ++
        ["disk", "directory", "filename", "mode", "chunk_size"]) := by
    rw [storedMembers]
    simp only [List.map_append]
    exact ((List.Sublist.refl _).append (Json.keys_optionalMember_sublist _ _)).append (List.Sublist.refl _)
  exact keys.nodup (by decide)

theorem decodeMode_token (m : StreamMode) : decodeMode (.str m.token) = .ok m := by
  cases m <;> rfl

/-- A descriptor reads back from its stored form. -/
theorem decode_toJson {desc : ReportDescriptor} (storable : desc.Storable) :
    decode desc.toJson = .ok desc := by
  have distinct := nodup_keys_storedMembers desc
  have member {k : String} {v : Json} (mem : (k, v) ∈ desc.storedMembers) :=
    Json.memberAt?_of_mem distinct mem
  obtain ⟨_, kindAt⟩ := member (k := "kind") (v := .str desc.kind) (by simp [storedMembers])
  obtain ⟨_, argumentsAt⟩ := member (k := "arguments") (v := desc.arguments) (by simp [storedMembers])
  obtain ⟨_, filtersAt⟩ := member (k := "filters") (v := .arr (desc.filters.map Filter.toJson)) (by simp [storedMembers])
  obtain ⟨_, diskAt⟩ := member (k := "disk") (v := .str desc.disk) (by simp [storedMembers])
  obtain ⟨_, directoryAt⟩ := member (k := "directory") (v := .str desc.directory) (by simp [storedMembers])
  obtain ⟨_, filenameAt⟩ := member (k := "filename") (v := .str desc.filename) (by simp [storedMembers])
  obtain ⟨_, modeAt⟩ := member (k := "mode") (v := .str desc.mode.token) (by simp [storedMembers])
  obtain ⟨_, chunkSizeAt⟩ := member (k := "chunk_size") (v := .nat desc.chunkSize) (by simp [storedMembers])
  have arguments : Json.asValue desc.arguments = .ok desc.arguments := by
    rw [Json.asValue, Json.merged_of_keysUnique _ storable.arguments_keysUnique]
  have filters : Json.asListOf Filter.decode (.arr (desc.filters.map Filter.toJson)) = .ok desc.filters :=
    Json.asListOf_map Filter.toJson fun f mem => Filter.decode_toJson (storable.filters_shaped f mem)
  have chunkSize := Json.asUsize_nat storable.chunkSize_lt
  -- the group is the one field that may be left out
  have group := Fields.optional_of_written (f := Json.asString) distinct "filter_group"
    desc.filterGroup Json.str
    (fun _ given => by simp [storedMembers, given]) (fun given => by simp [storedMembers, given])
    fun _ _ => rfl
  rw [toJson_eq, decode]
  rw [Fields.check_eq_ok distinct, Fields.required_of_some (f := Json.asString) kindAt rfl,
    Fields.required_of_some argumentsAt arguments, Fields.withDefault_of_some filtersAt filters,
    group.1, Fields.required_of_some (f := Json.asString) diskAt rfl,
    Fields.required_of_some (f := Json.asString) directoryAt rfl,
    Fields.required_of_some (f := Json.asString) filenameAt rfl,
    Fields.withDefault_of_some modeAt (decodeMode_token desc.mode),
    Fields.required_of_some chunkSizeAt chunkSize]
  · rfl
  · simp only [List.forall_mem_cons, List.not_mem_nil, IsEmpty.forall_iff, implies_true, and_true]
    exact ⟨FieldRule.passesOn_of_some (f := Json.asString) kindAt rfl,
      FieldRule.passesOn_of_some argumentsAt arguments, FieldRule.passesOn_of_some filtersAt filters,
      group.2, FieldRule.passesOn_of_some (f := Json.asString) diskAt rfl,
      FieldRule.passesOn_of_some (f := Json.asString) directoryAt rfl,
      FieldRule.passesOn_of_some (f := Json.asString) filenameAt rfl,
      FieldRule.passesOn_of_some modeAt (decodeMode_token desc.mode),
      FieldRule.passesOn_of_some chunkSizeAt chunkSize⟩

/-- A descriptor stored as compact text reads back as itself. -/
theorem decodeText_compact {desc : ReportDescriptor} (storable : desc.Storable)
    (numbers : desc.toJson.Rereads) (deep : desc.toJson.nesting < JsonText.depthLimit) :
    decodeText desc.toJson.compact decode = .ok desc := by
  obtain ⟨span, spanned⟩ := JsonText.readSpanned_compact desc.toJson numbers deep
  rw [decodeText, spanned]
  simp only [decode_toJson storable]

/-- A descriptor whose stored text nests past the reader's limit is not read
back. -/
theorem storedDescriptor_deep {r : ExportRecord} {desc : ReportDescriptor} (numbers : desc.toJson.Rereads)
    (deep : JsonText.depthLimit ≤ desc.toJson.nesting) (text : r.descriptorText = desc.toJson.compact) :
    ∃ err, Exporter.storedDescriptor r = .error err := by
  obtain ⟨message, refused⟩ := decodeText_deep desc.toJson numbers deep decode
  refine ⟨.descriptor message, ?_⟩
  rw [Exporter.storedDescriptor, text, refused]
  rfl

end ReportDescriptor

namespace ReportDefinition

theorem one_le_chunkSizeIn (d : ReportDefinition) (s : ExportSettings) : 1 ≤ d.chunkSizeIn s :=
  le_max_left _ _

/-- Freezing a restored definition gives the descriptor back, under any
settings, when the report has the descriptor's kind and arguments and the
chunk size is one that freezing can give. -/
theorem descriptor_restore {report : Report} {desc : ReportDescriptor} (kind : report.kind = desc.kind)
    (arguments : report.arguments = desc.arguments) (positive : 1 ≤ desc.chunkSize)
    (s : ExportSettings) : (restore report desc).descriptor s = desc := by
  have chunk : max 1 desc.chunkSize = desc.chunkSize := max_eq_right positive
  simp only [descriptor, restore, ReportDescriptor.filterCollection, diskIn, directoryIn, fileName,
    chunkSizeIn, kind, arguments, Option.getD_some]
  simp [chunk]

end ReportDefinition

theorem ReportRegistry.create_table {registry : ReportRegistry} (enabled : registry.contains "table" = true)
    {a : TableArgs} (storable : a.Storable) : registry.create "table" a.toJson = .ok (.table a) := by
  simp [ReportRegistry.create, enabled, decodeValue, TableArgs.decode_toJson storable]

/-- The worker rebuilds exactly what dispatch froze. A `table` definition is
frozen under settings `s` and stored with a new record; the record's text
reads back as the frozen descriptor, the record keeps its path and disk, and
the registry rebuilds a definition that freezes to the same descriptor under
any settings, with the same filters, header labels and query. -/
theorem worker_rebuilds_frozen_definition {d : ReportDefinition} {a : TableArgs}
    (table : d.report = .table a) (args : a.Storable) (shaped : ∀ f ∈ d.filters.filters, f.Shaped)
    {s : ExportSettings} (fits : d.chunkSizeIn s < 2 ^ 64) (numbers : (d.descriptor s).toJson.Rereads)
    (deep : (d.descriptor s).toJson.nesting < JsonText.depthLimit)
    {n : NewExport} (frozen : n.descriptor = d.descriptor s) (id now : Int)
    {registry : ReportRegistry} (enabled : registry.contains "table" = true) (s' : ExportSettings) :
    Exporter.storedDescriptor (n.record id now) = .ok (d.descriptor s) ∧
      (n.record id now).path = (d.descriptor s).outputPath ∧
      (n.record id now).disk = (d.descriptor s).disk ∧
      ∃ r, registry.reconstruct (d.descriptor s) = .ok r ∧ r.descriptor s' = d.descriptor s ∧
        r.filters = d.filters ∧ r.headers = d.headers ∧ r.buildQuery = d.buildQuery := by
  have kind : (d.descriptor s).kind = "table" := by
    rw [ReportDefinition.descriptor, table]
    rfl
  have arguments : (d.descriptor s).arguments = a.toJson := by
    rw [ReportDefinition.descriptor, table]
    rfl
  have storable : (d.descriptor s).Storable :=
    ⟨arguments ▸ TableArgs.keysUnique_toJson args, shaped, fits⟩
  -- the registry builds the same table report from the stored kind and arguments
  have rebuilt : registry.reconstruct (d.descriptor s) =
      .ok (ReportDefinition.restore (.table a) (d.descriptor s)) := by
    rw [ReportRegistry.reconstruct, kind, arguments, ReportRegistry.create_table enabled args]
    rfl
  refine ⟨?_, by rw [← frozen]; rfl, by rw [← frozen]; rfl, _, rebuilt, ?_, rfl, ?_, ?_⟩
  · show (decodeText n.descriptor.toJson.compact ReportDescriptor.decode).mapError ExportError.descriptor = _
    rw [frozen, ReportDescriptor.decodeText_compact storable numbers deep]
    rfl
  · exact ReportDefinition.descriptor_restore
      (show (Report.table a).kind = (d.descriptor s).kind by rw [kind]; rfl) arguments.symm
      (ReportDefinition.one_le_chunkSizeIn d s) s'
  · show a.headers = d.report.headers
    rw [table]
    rfl
  · rw [ReportDefinition.buildQuery, ReportDefinition.buildQuery, table]
    rfl

/-- The failed exports by status, as a table of the record database with an
order, a header label and a chunk size of its own. -/
def failedExports : ReportDefinition where
  report := .table
    { sql := "SELECT id, status FROM report_exports"
      filename := "failed.csv"
      orderBy := some "id"
      headers := ⟨[("status", "Status")]⟩
      chunkSize := some 500 }
  filters := { filters := [⟨"status", .equals, some (.str "failed")⟩], group := some "exports" }

/-- The failed exports, frozen under the default settings, are read back and
rebuilt by a registry that knows tables. -/
theorem failed_exports_rebuilt :
    Exporter.storedDescriptor
        (NewExport.record { descriptor := failedExports.descriptor {}, querySql := "", queue := "exports" } 1 0) =
      .ok (failedExports.descriptor {}) ∧
    ∃ r, ReportRegistry.reconstruct ⟨["table"]⟩ (failedExports.descriptor {}) = .ok r ∧
      r.descriptor {} = failedExports.descriptor {} := by
  have numbers : (failedExports.descriptor {}).toJson.numbers = [.int 500, .int 500] := by
    simp [failedExports, ReportDefinition.descriptor, ReportDescriptor.toJson, Report.arguments,
      TableArgs.toJson, HeaderMap.toJson, Filter.toJson, Json.numbers, Json.numbersItems, Json.numbersMembers,
      ReportDefinition.chunkSizeIn, Json.nat, HeaderMap.isEmpty, Report.chunkSize]
  obtain ⟨stored, -, -, r, rebuilt, same, -⟩ := worker_rebuilds_frozen_definition
    (d := failedExports) rfl
    ⟨fun _ mem => absurd mem List.not_mem_nil, by decide, fun n mem => by cases mem; decide⟩
    (fun f mem => by
      rw [List.mem_singleton.mp mem]
      exact ⟨by decide, ⟨.str "failed", rfl, rfl, rfl⟩⟩)
    (s := {}) (by decide)
    (fun k mem => by
      rw [numbers, List.mem_cons, List.mem_singleton, or_self] at mem
      rw [mem]
      exact Number.rereads_int (by norm_num) (by norm_num))
    (by decide)
    (n := { descriptor := failedExports.descriptor {}, querySql := "", queue := "exports" }) rfl 1 0
    (show ReportRegistry.contains ⟨["table"]⟩ "table" = true by decide) {}
  exact ⟨stored, r, rebuilt, same⟩

/-- Arrays nested in arrays, `n + 1` deep. -/
def Json.nestedArray : Nat → Json
  | 0 => .arr []
  | n + 1 => .arr [nestedArray n]

theorem Json.numbers_nestedArray : ∀ n, (nestedArray n).numbers = []
  | 0 => rfl
  | n + 1 => by simp [nestedArray, numbers, numbersItems, numbers_nestedArray n]

theorem Json.nesting_nestedArray : ∀ n, (nestedArray n).nesting = n + 1
  | 0 => rfl
  | n + 1 => by simp [nestedArray, nesting, nestingItems, nesting_nestedArray n]

/-- A table report whose one binding nests arrays 131 deep. -/
def deepBindings : ReportDefinition where
  report := .table { sql := "SELECT ?", filename := "deep.csv", bindings := [Json.nestedArray 130] }

/-- A record storing the deeply nested table report's descriptor does not read
it back. -/
theorem storedDescriptor_deepBindings {r : ExportRecord}
    (text : r.descriptorText = (deepBindings.descriptor {}).toJson.compact) :
    ∃ err, Exporter.storedDescriptor r = .error err := by
  have numbers : (deepBindings.descriptor {}).toJson.numbers = [.int 1000] := by
    simp [deepBindings, ReportDefinition.descriptor, ReportDescriptor.toJson, Report.arguments,
      TableArgs.toJson, Json.numbers, Json.numbersItems, Json.numbersMembers,
      Json.numbers_nestedArray, ReportDefinition.chunkSizeIn, Json.nat, HeaderMap.isEmpty, Report.chunkSize]
  -- the binding alone nests 131 deep, inside the arguments and the descriptor
  have deep : JsonText.depthLimit ≤ (deepBindings.descriptor {}).toJson.nesting := by
    simp [deepBindings, ReportDefinition.descriptor, ReportDescriptor.toJson, Report.arguments,
      TableArgs.toJson, Json.nesting, Json.nestingItems, Json.nestingMembers, Json.nesting_nestedArray,
      JsonText.depthLimit]
  refine ReportDescriptor.storedDescriptor_deep (fun k mem => ?_) deep text
  rw [numbers, List.mem_singleton] at mem
  rw [mem]
  exact Number.rereads_int (by norm_num) (by norm_num)

/-- Frozen under the default settings, the table report with deeply nested
bindings is stored, but its descriptor is not read back: its text nests past
the reader's limit. -/
theorem deep_bindings_descriptor_unread :
    ∃ err, Exporter.storedDescriptor
      (NewExport.record { descriptor := deepBindings.descriptor {}, querySql := "", queue := "exports" } 1 0) =
        .error err :=
  storedDescriptor_deepBindings rfl

end ReportExport
