import ReportExport.Sql.Function.Json

/-!
# The `json_each` and `json_tree` tables

`json_each(J)` has a row for each item of the array or member of the object
`J` is (or one row for `J` itself when it is neither); `json_tree(J)` walks
the whole value, a row for `J` and then, depth first, a row for everything
inside it. With a second argument, a path, both start from the value the path
leads to instead, and give no rows when it leads nowhere.

A row gives the key (the item's index or the member's label), the value
(arrays and objects as JSON text), its type name, the atom (the value when it
is neither an array nor an object), an identifier (the offset of the value,
or of a member's label, in the binary form of `J`), the identifier of the
row of the enclosing value (`json_tree` only), the full path of the value and
the path of the value enclosing it. Two hidden columns give the arguments: the
document and the starting path.
-/

namespace ReportExport.Sql

open Text

/-- The step a full path takes to an object member: `.label`, or `."label"`
when the label is not a letter followed by letters and digits. -/
def labelPathStep (l : JsonLabel) : Bytes :=
  let z := l.text
  let plain := match z with
    | c :: rest => isAsciiLetter c && rest.all isAlnumByte
    | [] => false
  if plain then 0x2e :: z else [0x2e, 0x22] ++ z ++ [0x22]

/-- The step a full path takes to an array item. -/
def indexPathStep (k : Nat) : Bytes := [0x5b] ++ bytesOf (toString k) ++ [0x5d]

/-- A row of the table: key, value, type, atom, identifier, parent, full path
and path. -/
structure JsonRow where
  key : SqlValue
  node : JsonNode
  id : Nat
  parent : Option Nat
  fullkey : Bytes
  path : Bytes

/-- A child of a container: its key, value, identifier and the step to it. -/
structure JsonChild where
  key : SqlValue
  node : JsonNode
  id : Nat
  step : Bytes

/-- The children of a value at `offset`. -/
def childrenAt (n : JsonNode) (offset : Nat) : List JsonChild :=
  match n with
  | .array items =>
    let offs := itemOffsets (offset + n.headerLength) items
    (List.range items.length).zip (items.zip offs) |>.map fun (k, v, o) =>
      { key := .integer k, node := v, id := o, step := indexPathStep k }
  | .object members =>
    let offs := memberOffsets (offset + n.headerLength) members
    (members.zip offs).map fun ((l, v), (lo, _)) =>
      { key := .text l.value, node := v, id := lo, step := labelPathStep l }
  | _ => []

/-- The rows `json_tree` gives for the values inside a value at `offset`
whose row has identifier `id` and full path `full`, depth first. -/
def treeRows : Nat → JsonNode → Nat → Nat → Bytes → Array JsonRow → Array JsonRow
  | 0, _, _, _, _, acc => acc
  | fuel + 1, n, offset, id, full, acc =>
    let offs : List Nat := match n with
      | .array items => itemOffsets (offset + n.headerLength) items
      | .object members => (memberOffsets (offset + n.headerLength) members).map (·.2)
      | _ => []
    ((childrenAt n offset).zip offs).foldl (fun acc (c, valueAt) =>
      let row : JsonRow := { key := c.key, node := c.node, id := c.id, parent := some id,
                             fullkey := full ++ c.step, path := full }
      treeRows fuel c.node valueAt c.id (full ++ c.step) (acc.push row)) acc

/-- The key and path `json_tree` gives the value a starting path leads to:
the last step of the path, found by walking back to a shorter path that
leads to the container whose first entry is at `id`. -/
def startKey (doc : JsonNode) (path : Bytes) (id : Nat) : SqlValue × Bytes :=
  let z := path.toArray
  let rec back (n : Nat) : Nat → Nat
    | 0 => n
    | fuel + 1 =>
      if n ≤ 1 then n
      else
        let n := n - 1
        let c := z.getD n 0
        if c == 0x5b || c == 0x2e then
          match doc.locate (slice z 1 n) with
          | .found v at_ _ => if at_ + v.headerLength == id then n else back n fuel
          | _ => back n fuel
        else back n fuel
  let j := back z.size z.size
  let seg := z.size - j
  let key : SqlValue :=
    if seg == 0 then .null
    else if z.getD j 0 == 0x5b then
      .integer ((slice z (j + 1) z.size).takeWhile isDigitByte |>.foldl (fun n d => n * 10 + digitOf d) 0)
    else if z.getD (j + 1) 0 == 0x22 then .text (slice z (j + 2) (j + seg - 1))
    else .text (slice z (j + 1) z.size)
  (key, slice z 0 j)

/-- The rows of `json_each` (or of `json_tree` when `recursive`) for its
arguments: the document and the optional starting path. -/
def jsonTableRows (recursive : Bool) (args : List SqlValue) : Except String (List JsonRow) := do
  let docArg := args.headD .null
  let doc ← match docArg with
    | .null => return []
    | .blob b =>
      if looksBinary b then
        match JsonNode.decode? b with
        | some n => pure n
        | none => throw "malformed JSON"
      else match JsonNode.parse? b with
        | some n => pure n
        | none => throw "malformed JSON"
    | v =>
      match JsonNode.parse? v.textBytes with
      | some n => pure n
      | none => throw "malformed JSON"
  -- the starting value, its offset, the identifier of its row, and the path to it
  let start ← match args with
    | [_, p] =>
      match p.textBytes? with
      | none => return []
      | some text =>
        if text.headD 0 != 0x24 then throw (badPath text)
        else if text.length == 1 then pure (doc, 0, 0, text)
        else match doc.locate (text.drop 1) with
          | .found v at_ label => pure (v, at_, label.getD at_, text)
          | .missing => return []
          | .malformed => throw (badPath text)
    | _ => pure (doc, 0, 0, bytesOf "$")
  let (node, offset, id, rootPath) := start
  if recursive then
    let (key, path) := if rootPath.length == 1 then (SqlValue.null, rootPath) else startKey doc rootPath id
    let first : JsonRow := { key, node, id, parent := none, fullkey := rootPath, path }
    return (treeRows (node.size + 2) node offset id rootPath #[first]).toList
  else if node.isContainer then
    return (childrenAt node offset).map fun c =>
      { key := c.key, node := c.node, id := c.id, parent := none, fullkey := rootPath ++ c.step, path := rootPath }
  else
    return [{ key := .null, node, id, parent := none, fullkey := rootPath, path := rootPath }]

/-- The table's rows as values: the rowid, the visible columns, the document
and the starting path. -/
def jsonTable (recursive : Bool) (args : List SqlValue) : Except String (Array (Array SqlValue)) := do
  let rows ← jsonTableRows recursive args
  let root : SqlValue := match args with
    | [_, p] => p
    | _ => .ofString "$"
  let mut out : Array (Array SqlValue) := #[]
  for (r, k) in rows.zipIdx do
    let value ← r.node.toSql
    let atom ← if r.node.isContainer then pure SqlValue.null else r.node.toSql
    out := out.push #[.integer k, r.key, value, .ofString r.node.typeName, atom, .integer r.id,
      (match r.parent with
       | some p => .integer p
       | none => .null), .text r.fullkey, .text r.path, args.headD .null, root]
  return out

end ReportExport.Sql
