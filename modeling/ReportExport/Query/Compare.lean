import ReportExport.Json.Basic
import ReportExport.Decimal.Read
import ReportExport.Text.Blank

/-!
# Comparing cell values

Two strings compare by their characters. Any other pair compares as doubles:
numbers by value, booleans as `1`/`0`, strings by their decimal reading after
trimming blanks. A null on either side, a side with no numeric reading, or a
NaN makes the pair incomparable.
-/

namespace ReportExport.Query

/-- Lexicographic order of character lists, by code point. -/
def compareChars : List Char → List Char → Ordering
  | [], [] => .eq
  | [], _ :: _ => .lt
  | _ :: _, [] => .gt
  | a :: as, b :: bs =>
    if a.toNat < b.toNat then .lt
    else if b.toNat < a.toNat then .gt
    else compareChars as bs

/-- Order of two doubles; `none` when either is NaN. -/
def compareFloats (a b : Float) : Option Ordering :=
  if a < b then some .lt
  else if b < a then some .gt
  else if a == b then some .eq
  else none

/-- The numeric reading of a value. -/
def numeric? : Json → Option Float
  | .num n => some n.toFloat
  | .bool b => some (if b then 1.0 else 0.0)
  | .str s => Decimal.readFloat? (Text.trimBlank s)
  | _ => none

/-- The order of two cell values, or `none` when they are incomparable. -/
def compareValues (left right : Json) : Option Ordering :=
  match left, right with
  | .null, _ => none
  | _, .null => none
  | .str a, .str b => some (compareChars a.toList b.toList)
  | _, _ =>
    match numeric? left, numeric? right with
    | some a, some b => compareFloats a b
    | _, _ => none

/-- The text a pattern test looks at: strings as they are, numbers as their
JSON text, booleans as `1`/`0`; containers and null have none. -/
def textOf? : Json → Option String
  | .str s => some s
  | .num n => some n.text
  | .bool b => some (if b then "1" else "0")
  | _ => none

end ReportExport.Query
