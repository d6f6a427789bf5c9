import ReportExport.Report.Definition

/-!
# The report registry

The registry maps the kinds it has enabled to their builders. Building a
report reads its arguments: a `table` report decodes them as its argument
record, a `rows` report needs an object, a `plain` report ignores them and a
`broken` report refuses them always. A kind the registry has not enabled is
unknown.

Reconstructing a definition from a descriptor builds the report from the
stored kind and arguments and restores the descriptor's choices around it.
-/

namespace ReportExport

/-- The enabled report kinds. -/
structure ReportRegistry where
  kinds : List String
  deriving Inhabited

namespace ReportRegistry

/-- Whether a kind is enabled. -/
def contains (r : ReportRegistry) (kind : String) : Bool := r.kinds.contains kind

/-- The enabled kinds in order. -/
def sortedKinds (r : ReportRegistry) : List String := r.kinds.mergeSort (fun a b => !(b < a))

/-- Builds a report of a kind from its arguments. -/
def create (r : ReportRegistry) (kind : String) (arguments : Json) : Except ReportError Report :=
  if !r.contains kind then .error (.unknownKind kind)
  else match kind with
    | "table" =>
      match decodeValue arguments TableArgs.decode with
      | .ok a => .ok (.table a)
      | .error m => .error (.invalidArguments "table" m)
    | "rows" => (RowsArgs.read arguments).map .rows |>.mapError (.invalidArguments "rows")
    | "plain" => .ok .plain
    | "broken" => .error (.invalidArguments "broken" "always")
    | _ => .error (.unknownKind kind)

/-- Rebuilds the definition a descriptor captures. -/
def reconstruct (r : ReportRegistry) (desc : ReportDescriptor) : Except ReportError ReportDefinition :=
  (r.create desc.kind desc.arguments).map (ReportDefinition.restore · desc)

/-- The debug text: the kinds in order. -/
def debugText (r : ReportRegistry) : String :=
  "ReportRegistry \x7b kinds: [" ++ ", ".intercalate (r.sortedKinds.map Text.debugQuote) ++ "] \x7d"

end ReportRegistry

end ReportExport
