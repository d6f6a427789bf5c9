import ReportExport.Sql.Function.Scalar
import ReportExport.Sql.Json.Path

/-!
# JSON functions

The functions that read, build and change JSON. A document argument is JSON
text (or the binary form, as a blob); an empty text or one that does not
parse is "malformed JSON". A value argument is taken as an SQL value: text
becomes a JSON string, numbers JSON numbers, NULL `null`; but text that
another JSON function produced is taken as the JSON it spells. The functions
whose name starts with `jsonb` give the binary form, as a blob.

A path argument must start with `$`; a malformed one is reported with the
path quoted: "bad JSON path: '...'".
-/

namespace ReportExport.Sql

open Text

/-! ## Arguments -/

/-- How a term's value carries JSON into a JSON function. -/
inductive JsonTag where
  /-- a plain SQL value -/
  | plain
  /-- JSON text -/
  | json
  /-- JSON text when it holds an array or an object -/
  | container
  deriving DecidableEq, Inhabited

/-- Whether a value with a tag is JSON text. -/
def JsonTag.marks (tag : JsonTag) (v : SqlValue) : Bool :=
  match tag, v with
  | .json, .text _ => true
  | .container, .text b =>
    match JsonNode.parse? b with
    | some n => n.isContainer
    | none => false
  | _, _ => false

/-- The tag of a function's result. -/
def jsonTagOf (name : String) : JsonTag :=
  if ["json", "json_array", "json_object", "json_quote", "json_group_array", "json_group_object", "->",
      "json_insert", "json_replace", "json_set", "json_remove", "json_patch"].contains name then .json
  else if name == "json_extract" then .container
  else .plain

/-- The text of a double in JSON built from SQL values. -/
def jsonRealText (r : Float) : Bytes :=
  bytesOf (formatReal { conversion := .general, precision := some 15, extended := true, zeroPad := true } r)

/-- The JSON text an SQL value adds to JSON being built: JSON text as it is,
other text as a string. -/
def appendValue (isJson : Bool) (v : SqlValue) : Except String Bytes :=
  match v with
  | .null => .ok (bytesOf "null")
  | .integer i => .ok (bytesOf (toString i))
  | .real r => .ok (jsonRealText r)
  | .text b => .ok (if isJson then b else [0x22] ++ escapeJsonText b ++ [0x22])
  | .blob b =>
    if looksBinary b then
      match JsonNode.decode? b with
      | some n => .ok n.render
      | none => .error "malformed JSON"
    else .error "JSON cannot hold BLOB values"

/-- The JSON value an SQL value stands for when it is stored in JSON. -/
def valueNode (isJson : Bool) (v : SqlValue) : Except String JsonNode :=
  match v with
  | .null => .ok .null
  | .integer i => .ok (.number .integer (bytesOf (toString i)))
  | .real r =>
    if r.isNaN then .ok .null
    else if r.isInf then .ok (.number .decimal (bytesOf (if r < 0.0 then "-9e999" else "9e999")))
    else .ok (.number .decimal (bytesOf (realText r)))
  | .text b =>
    if isJson then
      match JsonNode.parse? b with
      | some n => .ok n
      | none => .error "malformed JSON"
    else .ok (.string .raw b)
  | .blob b =>
    if looksBinary b then
      match JsonNode.decode? b with
      | some n => .ok n
      | none => .error "malformed JSON"
    else .error "JSON cannot hold BLOB values"

/-- The document a function's argument holds: `none` for NULL. -/
def documentArgument (v : SqlValue) : Except String (Option JsonNode) :=
  match v with
  | .null => .ok none
  | .blob b =>
    if looksBinary b then
      match JsonNode.decode? b with
      | some n => .ok (some n)
      | none => .error "malformed JSON"
    else if b.isEmpty then .error "malformed JSON"
    else match JsonNode.parse? b with
      | some n => .ok (some n)
      | none => .error "malformed JSON"
  | v =>
    let b := v.textBytes
    if b.isEmpty then .error "malformed JSON"
    else match JsonNode.parse? b with
      | some n => .ok (some n)
      | none => .error "malformed JSON"

/-- The error for a malformed path. -/
def badPath (path : Bytes) : String :=
  "bad JSON path: '" ++ lenientString (path.flatMap fun c => if c == 0x27 then [0x27, 0x27] else [c]) ++ "'"

/-! ## Results -/

/-- The SQL value of an integer's text: NULL-free, falling back to a double
when it is out of range. -/
def integerOfJson (form : NumberForm) (text : Bytes) : Except String SqlValue :=
  let (negative, digits) := match text with
    | 0x2d :: rest => (true, rest)
    | 0x2b :: rest => (false, rest)
    | rest => (false, rest)
  match form with
  | .hex =>
    let hex := (digits.drop 2).dropWhile (· == 0x30)
    let body := hex.takeWhile isHexByte
    if body.length > 16 || body.length != hex.length then .error "malformed JSON"
    else
      let u := body.foldl (fun n d => n * 16 + hexOf d) 0
      let i := wrapInteger (if u ≥ Nat.pow 2 63 then (u : Int) - Nat.pow 2 64 else u)
      .ok (.integer (wrapInteger (if negative then -i else i)))
  | _ =>
    let n := digits.foldl (fun n d => n * 10 + digitOf d) 0
    if n < Nat.pow 2 63 then .ok (.integer (if negative then -(n : Int) else n))
    else if n == Nat.pow 2 63 && negative then .ok (.integer minInteger)
    else .ok (.real (readReal text).1)

/-- The SQL value of a JSON value: NULL, 0 or 1, a number, the text of a
string, or the JSON text of an array or object. -/
def JsonNode.toSql : JsonNode → Except String SqlValue
  | .null => .ok .null
  | .bool b => .ok (.integer (if b then 1 else 0))
  | .number .integer t => integerOfJson .integer t
  | .number .hex t => integerOfJson .hex t
  | .number _ t => .ok (.real (readReal t).1)
  | .string form t => .ok (.text (stringText form t))
  | n => .ok (.text n.render)

/-- The result of a function that gives a document: JSON text, or the binary
form for the `jsonb` functions. -/
def documentResult (binary : Bool) (n : JsonNode) : SqlValue :=
  if binary then .blob n.encode else .text n.render

/-- The result of a function that builds JSON text: the text, or its binary
form for the `jsonb` functions. -/
def builtResult (binary : Bool) (text : Bytes) : Except String SqlValue :=
  if binary then
    match JsonNode.parse? text with
    | some n => .ok (.blob n.encode)
    | none => .error "malformed JSON"
  else .ok (.text text)

/-! ## The functions -/

/-- The abbreviated path the right operand of `->` and `->>` may be: an
integer for an array index, a bare word for a label, `[N]` as it is, other
text for a quoted label. -/
def arrowPath (v : SqlValue) (text : Bytes) : Bytes :=
  if text.headD 0 == 0x24 then text.drop 1
  else match v with
    | .integer _ => [0x5b] ++ text ++ [0x5d]
    | _ =>
      if text.all (fun c => isAlnumByte c || c == 0x5f) then 0x2e :: text
      else if text.headD 0 == 0x5b && text.length ≥ 3 && text.getLast? == some 0x5d then text
      else [0x2e, 0x22] ++ text ++ [0x22]

/-- `json_extract` and the `->` and `->>` operators. -/
def extractFunction (name : String) (args : List SqlValue) : Except String SqlValue := do
  if args.length < 2 then return .null
  let some n ← documentArgument (args.headD .null) | return .null
  let arrow := name == "->" || name == "->>"
  let paths := args.drop 1
  let mut found : Array Bytes := #[]
  for p in paths do
    let some text := p.textBytes? | return .null
    let steps ← if text.headD 0 == 0x24 then pure (text.drop 1)
      else if arrow then pure (arrowPath p text)
      else throw (badPath text)
    match n.locate steps with
    | .found v _ _ =>
      if paths.length == 1 then
        if name == "->" then return .text v.render
        else if name == "jsonb_extract" && v.isContainer then return .blob v.encode
        else return (← v.toSql)
      else found := found.push v.render
    | .missing =>
      if paths.length == 1 then return .null
      else found := found.push (bytesOf "null")
    | .malformed => throw (badPath text)
  builtResult (name == "jsonb_extract") ([0x5b] ++ joinWith [0x2c] found.toList ++ [0x5d])

/-- `json_set`, `json_insert` and `json_replace` (and their `jsonb` forms). -/
def insertFunction (mode : EditMode) (binary : Bool) (args : List SqlValue) (isJson : List Bool) :
    Except String SqlValue := do
  if args.isEmpty then return .null
  if args.length % 2 == 0 then
    let word := match mode with
      | .replace => "replace"
      | .insert => "insert"
      | _ => "set"
    throw ("json_" ++ word ++ "() needs an odd number of arguments")
  let some doc ← documentArgument (args.headD .null) | return .null
  let mut doc := doc
  for k in [0:(args.length - 1) / 2] do
    let p := args.getD (2 * k + 1) .null
    if !p.isNull then
      let text := p.textBytes
      if text.headD 0 != 0x24 then throw (badPath text)
      let v ← valueNode (isJson.getD (2 * k + 2) false) (args.getD (2 * k + 2) .null)
      if text.length == 1 then
        if mode != .insert then doc := v
      else
        match doc.edit mode v (text.drop 1) with
        | (.malformed, _) => throw (badPath text)
        | (_, some d) => doc := d
        | (_, none) => pure ()
  return documentResult binary doc

/-- `json_remove` (and `json` itself, which removes nothing). -/
def removeFunction (binary : Bool) (args : List SqlValue) : Except String SqlValue := do
  let some doc ← documentArgument (args.headD .null) | return .null
  let mut doc := doc
  for p in args.drop 1 do
    let some text := p.textBytes? | return .null
    if text.headD 0 != 0x24 then throw (badPath text)
    if text.length == 1 then return .null
    match doc.edit .remove .null (text.drop 1) with
    | (.malformed, _) => throw (badPath text)
    | (_, some d) => doc := d
    | (_, none) => return .null
  return documentResult binary doc

/-- The value a path argument leads to, for functions that take an optional
path: `none` when the path is NULL or leads nowhere. -/
def pathTarget (n : JsonNode) (p : SqlValue) (requireDollar : Bool) : Except String (Option JsonNode) := do
  let some text := p.textBytes? | return none
  let steps ← if text.headD 0 == 0x24 then pure (text.drop 1)
    else if requireDollar then throw (badPath text)
    else pure [0x40]
  match n.locate steps with
  | .found v _ _ => return some v
  | .missing => return none
  | .malformed => throw (badPath text)

/-- Calls a JSON function; `isJson` tells which arguments are JSON text from
another JSON function. -/
def jsonFunction (name : String) (args : List SqlValue) (isJson : List Bool) : Except String SqlValue :=
  let flag (i : Nat) : Bool := isJson.getD i false
  let binary := name.startsWith "jsonb"
  match name with
  | "json" | "jsonb" => removeFunction binary (args.take 1)
  | "json_array" | "jsonb_array" => do
    let parts ← ((List.range args.length).zip args).mapM fun (i, v) => appendValue (flag i) v
    builtResult binary ([0x5b] ++ joinWith [0x2c] parts ++ [0x5d])
  | "json_object" | "jsonb_object" => do
    if args.length % 2 != 0 then throw "json_object() requires an even number of arguments"
    let pairs := (List.range (args.length / 2)).map fun i => (args.getD (2 * i) .null, 2 * i + 1)
    let parts ← pairs.mapM fun (k, j) => do
      match k with
      | .text kb =>
        let v ← appendValue (flag j) (args.getD j .null)
        pure ([0x22] ++ escapeJsonText kb ++ [0x22, 0x3a] ++ v)
      | _ => throw "json_object() labels must be TEXT"
    builtResult binary ([0x7b] ++ joinWith [0x2c] parts ++ [0x7d])
  | "json_quote" => do
    let t ← appendValue (flag 0) (args.headD .null)
    .ok (.text t)
  | "json_valid" => do
    let flags ← match args with
      | [_, f] =>
        let f := f.intValue
        if f < 1 || f > 15 then throw "FLAGS parameter to json_valid() must be between 1 and 15"
        else pure f.toNat
      | _ => pure 1
    match args.headD .null with
    | .null => .ok .null
    | v =>
      let bytes := v.textBytes
      let isBinary := match v with
        | .blob b => looksBinary b
        | _ => false
      if isBinary then
        if flags % 8 ≥ 4 then .ok (.integer 1)
        else if flags ≥ 8 then .ok (.integer (if (JsonNode.decode? bytes).isSome then 1 else 0))
        else .ok (.integer 0)
      else if flags % 4 == 0 then .ok (.integer 0)
      else if bytes.isEmpty then .ok (.integer 0)
      else match readJsonText bytes with
        | .ok (_, nonstandard) => .ok (.integer (if flags % 4 ≥ 2 || !nonstandard then 1 else 0))
        | .error _ => .ok (.integer 0)
  | "json_error_position" =>
    match args.headD .null with
    | .null => .ok .null
    | .blob b =>
      if looksBinary b then .ok (.integer (if (JsonNode.decode? b).isSome then 0 else 1))
      else match readJsonText b with
        | .ok _ => .ok (.integer 0)
        | .error at_ => .ok (.integer ((((untilNul b).take at_).filter (fun c => c &&& 0xc0 != 0x80)).length + 1))
    | v =>
      let b := v.textBytes
      match readJsonText b with
      | .ok _ => .ok (.integer 0)
      | .error at_ => .ok (.integer ((((untilNul b).take at_).filter (fun c => c &&& 0xc0 != 0x80)).length + 1))
  | "json_type" => do
    let some n ← documentArgument (args.headD .null) | return .null
    match args with
    | [_, p] =>
      match ← pathTarget n p true with
      | some v => .ok (.ofString v.typeName)
      | none => .ok .null
    | _ => .ok (.ofString n.typeName)
  | "json_array_length" => do
    let some n ← documentArgument (args.headD .null) | return .null
    let target ← match args with
      | [_, p] =>
        if p.isNull then return .null
        else pathTarget n p false
      | _ => pure (some n)
    match target with
    | some (.array items) => .ok (.integer items.length)
    | some _ => .ok (.integer 0)
    | none => .ok .null
  | "json_extract" | "jsonb_extract" | "->" | "->>" => extractFunction name args
  | "json_set" | "jsonb_set" => insertFunction .set binary args isJson
  | "json_insert" | "jsonb_insert" => insertFunction .insert binary args isJson
  | "json_replace" | "jsonb_replace" => insertFunction .replace binary args isJson
  | "json_remove" | "jsonb_remove" => removeFunction binary args
  | "json_patch" | "jsonb_patch" => do
    let some target ← documentArgument (args.headD .null) | return .null
    let some patch ← documentArgument (args.getD 1 .null) | return .null
    .ok (documentResult binary (target.mergePatch patch))
  | "json_pretty" => do
    let some n ← documentArgument (args.headD .null) | return .null
    let indent := match args.getD 1 .null with
      | .null => bytesOf "    "
      | v => untilNul v.textBytes
    .ok (.text (n.pretty indent))
  | _ => .error ("no such function: " ++ name)

/-! ## Aggregates -/

/-- The JSON array of the values an aggregate collected. -/
def jsonGroupArray (binary : Bool) (values : List (SqlValue × Bool)) : Except String SqlValue := do
  let parts ← values.mapM fun (v, j) => appendValue j v
  builtResult binary ([0x5b] ++ joinWith [0x2c] parts ++ [0x5d])

/-- The JSON object of the labels and values an aggregate collected; NULL
labels are skipped. -/
def jsonGroupObject (binary : Bool) (pairs : List (SqlValue × SqlValue × Bool)) : Except String SqlValue := do
  let parts ← pairs.filterMapM fun (k, v, j) => do
    match k with
    | .null => pure none
    | _ =>
      let t ← appendValue j v
      pure (some ([0x22] ++ escapeJsonText (untilNul k.textBytes) ++ [0x22, 0x3a] ++ t))
  builtResult binary ([0x7b] ++ joinWith [0x2c] parts ++ [0x7d])

end ReportExport.Sql
