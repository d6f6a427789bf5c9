import ReportExport.Text.FormUrl

/-!
# Nested-bracket query strings

A JSON value under a key is written as form-encoded pairs whose names spell the
path to each leaf: `key[0][column]=status`. Null leaves are left out,
booleans are written `1`/`0` and numbers as their JSON text.

Reading splits each name into a base and bracketed segments, builds a tree of
objects (an empty segment stands for the current size of the object, a later
leaf replaces an earlier one, and a leaf in the way of a deeper path gives way
to an object), and then turns every object whose keys are all indexes into an
array ordered by index. Every leaf read back is a string.
-/

namespace ReportExport.QueryString

mutual
/-- The name-value pairs of a value under a name. -/
def flatten (name : String) : Json → List (String × String)
  | .null => []
  | .bool b => [(name, if b then "1" else "0")]
  | .num n => [(name, n.text)]
  | .str s => [(name, s)]
  | .arr items => flattenItems name 0 items
  | .obj members => flattenMembers name members

/-- Pairs of array items, indexed from `i`. -/
def flattenItems (name : String) (i : Nat) : List Json → List (String × String)
  | [] => []
  | x :: xs => flatten (name ++ "[" ++ natText i ++ "]") x ++ flattenItems name (i + 1) xs

/-- Pairs of object members, in member order. -/
def flattenMembers (name : String) : List (String × Json) → List (String × String)
  | [] => []
  | (k, v) :: rest => flatten (name ++ "[" ++ k ++ "]") v ++ flattenMembers name rest
end

/-- The query string of a value under a key. -/
def build (key : String) (value : Json) : String :=
  Text.FormUrl.encodePairs (flatten key value)

/-- The bracketed segments after a base: each `[segment]` in turn, stopping at
an unclosed bracket or at text that does not open one. -/
def segments : List Char → Nat → List String
  | _, 0 => []
  | '[' :: rest, fuel + 1 =>
    if rest.contains ']' then
      String.ofList (rest.takeWhile (· != ']')) ::
        segments ((rest.dropWhile (· != ']')).drop 1) fuel
    else []
  | _, _ + 1 => []

/-- The path of a name: the name itself when it has no `[` or starts with one,
else its base and bracketed segments. -/
def splitKey (name : String) : List String :=
  let cs := name.toList
  match cs.idxOf? '[' with
  | none => [name]
  | some 0 => [name]
  | some i => String.ofList (cs.take i) :: segments (cs.drop i) (cs.length + 1)

/-- Writes a leaf at a path into an object's members. -/
def insert : List String → List (String × Json) → Json → List (String × Json)
  | [], node, _ => node
  | head :: tail, node, value =>
    let key := if head.isEmpty then natText node.length else head
    match tail with
    | [] => Json.upsert key value node
    | _ :: _ =>
      let child := match Json.lookup key node with
        | some (.obj ms) => ms
        | _ => []
      Json.upsert key (.obj (insert tail child value)) node

/-- Reads an index: an optional `+` and decimal digits, at most `2^64 - 1`. -/
def index? (s : String) : Option Nat :=
  let cs := match s.toList with
    | '+' :: rest => rest
    | cs => cs
  if !cs.isEmpty && cs.all Char.isDigit then
    let n := cs.foldl (fun acc d => acc * 10 + (d.toNat - 48)) 0
    if n < Nat.pow 2 64 then some n else none
  else none

mutual
/-- Turns objects keyed by indexes into arrays ordered by index, everywhere. -/
def normalize : Json → Json
  | .obj ms =>
    let norm := normalizeMembers ms
    match norm.mapM (fun (k, v) => (index? k).map (fun i => (i, v))) with
    | some indexed@(_ :: _) => .arr ((indexed.mergeSort (fun a b => decide (a.1 ≤ b.1))).map Prod.snd)
    | _ => .obj norm
  | j => j

/-- Normalizes member values. -/
def normalizeMembers : List (String × Json) → List (String × Json)
  | [] => []
  | (k, v) :: rest => (k, normalize v) :: normalizeMembers rest
end

/-- The top-level members of a query string, each value normalized. -/
def parse (query : String) : List (String × Json) :=
  let q := match query.toList with
    | '?' :: rest => String.ofList rest
    | _ => query
  let root := (Text.FormUrl.decodePairs q).foldl
    (fun root (n, v) => insert (splitKey n) root (.str v)) []
  normalizeMembers root

end ReportExport.QueryString
