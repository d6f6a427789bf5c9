import ReportExport.Api.Filters

/-!
# The JSON command interface: filter collections and query strings

A collection is read from a source (an array, JSON text, decoded parameters or
a query string), then changed and inspected step by step; each step's entry
carries the collection's view after it.
-/

namespace ReportExport.Api

/-- The view of a collection under the settings. -/
def collectionView (s : FilterSettings) (c : FilterCollection) : Json :=
  .obj [("len", .nat c.size), ("is_empty", .bool c.isEmpty), ("is_not_empty", .bool !c.isEmpty),
        ("group", Json.opt Json.str c.group), ("query_parameter", .str (c.queryParameter s)),
        ("array", .arr c.toArray), ("json", .str c.toJsonText),
        ("query_string", .str (c.toQueryString s)), ("query_array", .obj (c.toQueryArray s))]

/-- Reads a collection from a source object `{format, input, group?}`; the
inner result is the filter error of an entry that does not decode. -/
def readSource (s : FilterSettings) (src : Json) :
    Except String (Except FilterError FilterCollection) := do
  let format ← str src "format"
  let group ← strOpt src "group"
  match format with
  | "array" => return FilterCollection.ofArray (← arr src "input") group
  | "json" => return FilterCollection.ofJsonText (← str src "input") group
  | "params" => return FilterCollection.ofParams (← objField src "input") group s
  | "query_string" => return FilterCollection.ofQueryString (← str src "input") group s
  | other => throw ("unknown format '" ++ other ++ "'")

/-- Decodes wire filters as the data model does; the message of the first that
fails. -/
def decodeFilters (items : List Json) : Except String (List Filter) :=
  items.mapM fun j =>
    match Filter.decode j with
    | .ok f => .ok f
    | .error e => .error e.valueMessage

/-- One step on a collection: the answer and the collection after it. -/
def collectionStep (s : FilterSettings) (c : FilterCollection) (step : Json) :
    Except String (Json × FilterCollection) := do
  let name ← stepName step
  let serdeFailure (m : String) := decodeFailure m
  match name with
  | "add" | "push" =>
    match decodeFilters [(step.get? "filter").getD .null] with
    | .ok fs => return (ok .null, c.addMany fs)
    | .error m => return (serdeFailure m, c)
  | "add_many" =>
    match decodeFilters (← arr step "filters") with
    | .ok fs => return (ok .null, c.addMany fs)
    | .error m => return (serdeFailure m, c)
  | "with_group" => return (ok .null, c.withGroup (← str step "group"))
  | "merge" =>
    match ← readSource s ((step.get? "other").getD .null) with
    | .ok other =>
      return (ok .null, if flag step "swap" then other.merge c else c.merge other)
    | .error e => return (FilterError.answer e, c)
  | "for_column" =>
    return (ok (.arr ((c.forColumn (← str step "column")).map Filter.toJson)), c)
  | "has_column" => return (ok (.bool (c.hasColumn (← str step "column"))), c)
  | "get" => return (ok (Json.opt Filter.toJson (c.get? (← nat step "index"))), c)
  | "append_to_url" => return (ok (.str (c.appendToUrl (← str step "url") s)), c)
  | "query_string_round_trip" =>
    match FilterCollection.ofQueryString (c.toQueryString s) c.group s with
    | .ok d => return (ok (.obj [("equal", .bool (d == c)), ("decoded", collectionView s d)]), c)
    | .error e => return (FilterError.answer e, c)
  | "json_round_trip" =>
    match FilterCollection.ofJsonText c.toJsonText c.group with
    | .ok d => return (ok (.obj [("equal", .bool (d == c))]), c)
    | .error e => return (FilterError.answer e, c)
  | "equals" =>
    match ← readSource s ((step.get? "other").getD .null) with
    | .ok other => return (ok (.bool (other == c)), c)
    | .error e => return (FilterError.answer e, c)
  | "iter" =>
    return (ok (.obj [("iter", .arr (c.filters.map (fun f => .str f.column))),
                      ("ref_into_iter", .arr (c.filters.map (fun f => .str f.comparator.token))),
                      ("into_iter", .arr (c.filters.map (fun f => f.value.getD .null)))]), c)
  | "collect" => return (ok .null, FilterCollection.ofList c.filters)
  | other => unknownStep other

/-- Runs the steps in order; a failed step leaves the collection unchanged. -/
def collectionSteps (s : FilterSettings) : FilterCollection → List Json → List Json
  | _, [] => []
  | c, step :: rest =>
    let (entry, c) := match collectionStep s c step with
      | .ok (a, c) => (a, c)
      | .error m => (failure "bad_input" m, c)
    withSnapshot entry [("state", collectionView s c)] :: collectionSteps s c rest

/-- `collection`: reads a source and runs steps on it. -/
def collectionOp (req : Json) : Handler := do
  let s := settingsOf req
  match ← readSource s ((req.get? "source").getD .null) with
  | .error e => return FilterError.answer e
  | .ok c =>
    let steps := ((req.get? "steps").bind Json.arr?).getD []
    return ok (.obj [("initial", collectionView s c), ("steps", .arr (collectionSteps s c steps))])

/-- `query_build`: the query string of a value under a key. -/
def queryBuildOp (req : Json) : Handler := do
  let key ← str req "key"
  return ok (.str (QueryString.build key ((req.get? "value").getD .null)))

/-- `query_parse`: the nested parameters of a query string. -/
def queryParseOp (req : Json) : Handler := do
  return ok (.obj (QueryString.parse (← str req "query")))

end ReportExport.Api
