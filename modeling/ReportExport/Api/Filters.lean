import ReportExport.Api.Basic
import ReportExport.Text.Sha256

/-!
# The JSON command interface: comparators, filters and predicates

Views of comparators, filters and predicates, and the operations that build
filters from tokens, parts, wire objects and the typed constructors.
-/

namespace ReportExport.Api

open Query

/-- The view of a comparator's properties. -/
def comparatorView (c : Comparator) : List (String × Json) :=
  [("requires_value", .bool c.requiresValue), ("is_list", .bool c.isList),
   ("is_pattern", .bool c.isPattern)]

/-- The view of a predicate: its kind, fields, WHERE fragment and bindings. -/
def predicateView (p : Predicate) : Json :=
  let common := [("column", Json.str p.column), ("sql", .str p.sql), ("params", .arr p.bindings)]
  let own : List (String × Json) := match p with
    | .compare _ op v => [("type", .str "compare"), ("op", .str op.sql), ("value", v)]
    | .like _ n a neg =>
      [("type", .str "like"), ("needle", .str n), ("anchor", .str a.name), ("negated", .bool neg)]
    | .member _ vs neg => [("type", .str "in"), ("values", .arr vs), ("negated", .bool neg)]
    | .between _ lo hi => [("type", .str "between"), ("min", lo), ("max", hi)]
    | .null _ neg => [("type", .str "null"), ("negated", .bool neg)]
  .obj (own ++ common)

/-- The predicate view of a filter, or the compile error. -/
def compiledView (f : Filter) : Json :=
  match Predicate.ofFilter f with
  | .ok p => predicateView p
  | .error e => CompileError.answer e

/-- The full view of a filter. -/
def filterView (f : Filter) : Json :=
  .obj [("column", .str f.column), ("operator", .str f.comparator.token),
        ("value", f.value.getD .null),
        ("list", match f.list? with | some vs => .arr vs | none => .null),
        ("range", match f.range? with | some (lo, hi) => .arr [lo, hi] | none => .null),
        ("predicate", compiledView f), ("serialized", f.toJson)]

/-- The answer for a built filter or its error. -/
def filterAnswer (r : Except FilterError Filter) : Json :=
  match r with
  | .ok f => ok (filterView f)
  | .error e => FilterError.answer e

/-- `comparator`: reads a token. -/
def comparatorOp (req : Json) : Handler := do
  let token ← str req "token"
  match Filter.comparatorOf token with
  | .ok c => pure (ok (.obj (("canonical", .str c.token) :: comparatorView c)))
  | .error e => pure (FilterError.answer e)

/-- `comparators`: every comparator with its properties. -/
def comparatorsOp : Handler :=
  pure (ok (.arr (Comparator.all.map fun c =>
    .obj ([("display", .str c.token), ("as_str", .str c.token)] ++ comparatorView c))))

/-- `filter_make`: a comparator token, a column and an optional operand. -/
def filterMakeOp (req : Json) : Handler := do
  let token ← str req "comparator"
  let column ← str req "column"
  pure <| match Filter.comparatorOf token with
    | .error e => FilterError.answer e
    | .ok c => filterAnswer (Filter.make column c (req.get? "value"))

/-- `filter_from_parts`: the wire parts, an absent operand being null. -/
def filterFromPartsOp (req : Json) : Handler := do
  let column ← str req "column"
  let operator ← str req "operator"
  pure (filterAnswer (Filter.ofParts column operator ((req.get? "value").getD .null)))

/-- `filter_decode`: the wire form as a JSON value. -/
def filterDecodeOp (req : Json) : Handler :=
  pure <| match Filter.decode ((req.get? "json").getD .null) with
    | .ok f => ok (filterView f)
    | .error e => decodeFailure e.valueMessage

/-- The typed constructors by name: the comparator, and how the operand is
taken from the request. -/
def ctorOperand (req : Json) : String → Option (Comparator × Option Json)
  | "in_list" => some (.isIn, some (.arr (((req.get? "values").bind Json.arr?).getD [])))
  | "not_in" => some (.notIn, some (.arr (((req.get? "values").bind Json.arr?).getD [])))
  | "between" => some (.between, some (.arr [(req.get? "min").getD .null, (req.get? "max").getD .null]))
  | "is_null" => some (.isNull, none)
  | "is_not_null" => some (.isNotNull, none)
  | name =>
    match Comparator.ofToken? name with
    | some c => if c.isList || c = .between || !c.requiresValue then none
                else some (c, some ((req.get? "value").getD .null))
    | none => none

/-- `filter_ctor`: one of the typed constructors. -/
def filterCtorOp (req : Json) : Handler := do
  let name ← str req "ctor"
  let column ← str req "column"
  match ctorOperand req name with
  | some (c, v) => pure (filterAnswer (Filter.make column c v))
  | none => throw ("unknown ctor '" ++ name ++ "'")

/-- `compare_values`: the order of two cell values. -/
def compareValuesOp (req : Json) : Handler :=
  let l := (req.get? "left").getD .null
  let r := (req.get? "right").getD .null
  pure (ok (match compareValues l r with
    | some .lt => .str "less"
    | some .eq => .str "equal"
    | some .gt => .str "greater"
    | none => .null))

/-- `sql`: the SQL text helpers. -/
def sqlOp (req : Json) : Handler := do
  let fn ← str req "fn"
  match fn with
  | "escape_like" => return ok (.str (Sql.escapeLike (← str req "s")))
  | "quote_identifier" => return ok (.str (Sql.quoteIdentifier (← str req "s")))
  | "literal" => return ok (.str (Sql.literal ((req.get? "value").getD .null)))
  | "interpolate" => return ok (.str (Sql.interpolate (← str req "sql") (← arr req "bindings")))
  | "sha256" => return ok (.str (Text.Sha256.hexDigest (← str req "s")))
  | other => throw ("unknown fn '" ++ other ++ "'")

end ReportExport.Api
