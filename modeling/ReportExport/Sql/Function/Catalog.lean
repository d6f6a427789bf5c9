import ReportExport.Sql.Schema

/-!
# The built-in functions

Every function the engine knows, by name and number of arguments. A name may
stand for several functions: `min` and `max` with one argument are
aggregates, with two or more they are scalar functions.

A function is scalar, an aggregate (also usable as a window function), or a
window function proper. Some compare text and take the collation of their
arguments (`min`, `max`, `nullif`).
-/

namespace ReportExport.Sql

/-- What a function computes over. -/
inductive FunctionKind where
  | scalar
  | aggregate
  | window
  deriving Repr, DecidableEq, Inhabited

/-- A built-in function: its name, kind, the argument counts it takes (at
least `minArgs`, at most `maxArgs`), and whether it compares text by the
collation of its arguments. -/
structure FunctionInfo where
  name : String
  kind : FunctionKind
  minArgs : Nat
  maxArgs : Nat
  collates : Bool := false
  deriving Repr, Inhabited

/-- Any number of arguments. -/
def manyArgs : Nat := 1000

/-- The scalar functions. -/
def scalarFunctions : List FunctionInfo :=
  let f (name : String) (lo hi : Nat) : FunctionInfo := { name, kind := .scalar, minArgs := lo, maxArgs := hi }
  [f "abs" 1 1, f "changes" 0 0, f "char" 0 manyArgs, f "coalesce" 2 manyArgs,
   f "concat" 1 manyArgs, f "concat_ws" 2 manyArgs, f "format" 0 manyArgs, f "printf" 0 manyArgs,
   f "glob" 2 2, f "hex" 1 1, f "ifnull" 2 2, f "iif" 3 3, f "instr" 2 2,
   f "last_insert_rowid" 0 0, f "length" 1 1, f "like" 2 3, f "likelihood" 2 2,
   f "likely" 1 1, f "unlikely" 1 1, f "lower" 1 1, f "upper" 1 1, f "ltrim" 1 2,
   f "rtrim" 1 2, f "trim" 1 2, { f "max" 2 manyArgs with collates := true },
   { f "min" 2 manyArgs with collates := true }, { f "nullif" 2 2 with collates := true },
   f "octet_length" 1 1, f "quote" 1 1, f "random" 0 0, f "randomblob" 1 1,
   f "replace" 3 3, f "round" 1 2, f "sign" 1 1, f "soundex" 1 1,
   f "sqlite_version" 0 0, f "sqlite_source_id" 0 0, f "substr" 2 3, f "substring" 2 3,
   f "total_changes" 0 0, f "typeof" 1 1, f "subtype" 1 1, f "unhex" 1 2, f "unicode" 1 1,
   f "zeroblob" 1 1, f "date" 0 manyArgs, f "time" 0 manyArgs, f "datetime" 0 manyArgs,
   f "julianday" 0 manyArgs, f "unixepoch" 0 manyArgs, f "strftime" 0 manyArgs,
   f "timediff" 2 2, f "current_date" 0 0, f "current_time" 0 0, f "current_timestamp" 0 0,
   f "json" 1 1, f "jsonb" 1 1, f "json_array" 0 manyArgs, f "jsonb_array" 0 manyArgs,
   f "json_array_length" 1 2, f "json_extract" 0 manyArgs, f "jsonb_extract" 0 manyArgs,
   f "json_insert" 0 manyArgs, f "jsonb_insert" 0 manyArgs, f "json_object" 0 manyArgs,
   f "jsonb_object" 0 manyArgs, f "json_patch" 2 2, f "jsonb_patch" 2 2, f "json_quote" 1 1,
   f "json_remove" 0 manyArgs, f "jsonb_remove" 0 manyArgs, f "json_replace" 0 manyArgs,
   f "jsonb_replace" 0 manyArgs, f "json_set" 0 manyArgs, f "jsonb_set" 0 manyArgs,
   f "json_type" 1 2, f "json_valid" 1 2, f "json_error_position" 1 1, f "json_pretty" 1 2,
   f "sqlite_compileoption_used" 1 1, f "sqlite_compileoption_get" 1 1, f "load_extension" 1 2,
   f "ceil" 1 1, f "ceiling" 1 1, f "floor" 1 1, f "trunc" 1 1, f "ln" 1 1, f "log" 1 2,
   f "log10" 1 1, f "log2" 1 1, f "exp" 1 1, f "pow" 2 2, f "power" 2 2, f "mod" 2 2,
   f "acos" 1 1, f "asin" 1 1, f "atan" 1 1, f "atan2" 2 2, f "cos" 1 1, f "sin" 1 1,
   f "tan" 1 1, f "cosh" 1 1, f "sinh" 1 1, f "tanh" 1 1, f "acosh" 1 1, f "asinh" 1 1,
   f "atanh" 1 1, f "sqrt" 1 1, f "radians" 1 1, f "degrees" 1 1, f "pi" 0 0]

/-- The aggregate functions. -/
def aggregateFunctions : List FunctionInfo :=
  let f (name : String) (lo hi : Nat) : FunctionInfo := { name, kind := .aggregate, minArgs := lo, maxArgs := hi }
  [f "avg" 1 1, f "count" 0 1, f "group_concat" 1 2, f "string_agg" 2 2,
   { f "max" 1 1 with collates := true }, { f "min" 1 1 with collates := true },
   f "sum" 1 1, f "total" 1 1, f "json_group_array" 1 1, f "jsonb_group_array" 1 1,
   f "json_group_object" 2 2, f "jsonb_group_object" 2 2]

/-- The window functions proper. -/
def windowFunctions : List FunctionInfo :=
  let f (name : String) (lo hi : Nat) : FunctionInfo := { name, kind := .window, minArgs := lo, maxArgs := hi }
  [f "row_number" 0 0, f "rank" 0 0, f "dense_rank" 0 0, f "percent_rank" 0 0,
   f "cume_dist" 0 0, f "ntile" 1 1, f "lag" 1 3, f "lead" 1 3, f "first_value" 1 1,
   f "last_value" 1 1, f "nth_value" 2 2]

/-- What looking up a function by name and argument count finds. -/
inductive FunctionLookup where
  | found (info : FunctionInfo)
  /-- the name is known, but not with this many arguments -/
  | wrongCount
  | unknown
  deriving Inhabited

/-- Looks up a function by name (in any case) and argument count. -/
def lookupFunction (name : String) (count : Nat) : FunctionLookup :=
  let lower := name.toLower
  let all := windowFunctions ++ aggregateFunctions ++ scalarFunctions
  let named := all.filter (·.name == lower)
  match named.find? (fun i => i.minArgs ≤ count && count ≤ i.maxArgs) with
  | some info => .found info
  | none => if named.isEmpty then .unknown else .wrongCount

/-! ## Table-valued functions -/

/-- The visible columns of `json_each` and `json_tree`. -/
def jsonTableColumns : List String := ["key", "value", "type", "atom", "id", "parent", "fullkey", "path"]

/-- The pragmas that can be read as tables: their visible columns and
whether they take an argument. -/
def pragmaTableShape : String → Option (List String × Bool)
  | "table_info" => some (["cid", "name", "type", "notnull", "dflt_value", "pk"], true)
  | "table_xinfo" => some (["cid", "name", "type", "notnull", "dflt_value", "pk", "hidden"], true)
  | "index_list" => some (["seq", "name", "unique", "origin", "partial"], true)
  | "index_info" => some (["seqno", "cid", "name"], true)
  | "index_xinfo" => some (["seqno", "cid", "name", "desc", "coll", "key"], true)
  | "foreign_key_list" => some (["id", "seq", "table", "from", "to", "on_update", "on_delete", "match"], true)
  | "collation_list" => some (["seq", "name"], false)
  | "user_version" => some (["user_version"], false)
  | "schema_version" => some (["schema_version"], false)
  | "foreign_keys" => some (["foreign_keys"], false)
  | "page_size" => some (["page_size"], false)
  | "page_count" => some (["page_count"], false)
  | "encoding" => some (["encoding"], false)
  | _ => none

/-- The hidden columns of a pragma read as a table: the argument and the
schema for those that take an argument. -/
def pragmaHiddenColumns (takesArgument : Bool) : List String :=
  if takesArgument then ["arg", "schema"] else []

/-- The visible and hidden columns of a table-valued function. -/
def tableFunctionColumns (name : String) : Option (List String × List String) :=
  if name == "json_each" || name == "json_tree" then some (jsonTableColumns, ["json", "root"])
  else if name.startsWith "pragma_" then
    (pragmaTableShape (name.drop 7).toString).map fun (visible, takesArgument) =>
      (visible, pragmaHiddenColumns takesArgument)
  else none

end ReportExport.Sql
