import ReportExport.Json.Decode
import ReportExport.Json.Print

/-!
# Header labels

A header map gives display labels to columns for the CSV header row. It keeps
one label per column in order of first insertion; inserting a column again
replaces its label in place. A column without a label is shown as itself.
-/

namespace ReportExport

/-- Column labels in order of first insertion, one per column. -/
structure HeaderMap where
  entries : List (String × String) := []
  deriving Inhabited, DecidableEq

namespace HeaderMap

/-- Sets a column's label, in place when the column is already there. -/
def insertEntry (column label : String) : List (String × String) → List (String × String)
  | [] => [(column, label)]
  | (c, l) :: rest =>
    if c = column then (c, label) :: rest else (c, l) :: insertEntry column label rest

/-- Sets a column's label. -/
def insert (h : HeaderMap) (column label : String) : HeaderMap :=
  ⟨insertEntry column label h.entries⟩

/-- Builds a map by inserting pairs in order. -/
def ofPairs (pairs : List (String × String)) : HeaderMap :=
  pairs.foldl (fun h (c, l) => h.insert c l) {}

/-- The label of a column, or the column itself. -/
def labelFor (h : HeaderMap) (column : String) : String :=
  match h.entries.find? (fun (c, _) => c == column) with
  | some (_, l) => l
  | none => column

/-- Number of labelled columns. -/
def size (h : HeaderMap) : Nat := h.entries.length

/-- Whether no column has a label. -/
def isEmpty (h : HeaderMap) : Bool := h.entries.isEmpty

/-- The map as a JSON object of labels. -/
def toJson (h : HeaderMap) : Json := .obj (h.entries.map (fun (c, l) => (c, .str l)))

/-- Decodes an object of string labels. -/
def decode (j : Json) : Decoded HeaderMap := do
  let members ← Json.asMap Json.asValue j
  members.foldlM (fun h (c, v) =>
    match v with
    | .str l => .ok (h.insert c l)
    | other => Decoded.fail ("header label for '" ++ c ++ "' must be a string, got " ++ other.compact))
    {}

end HeaderMap

end ReportExport
