import ReportExport.Sql.Affinity

/-!
# Collations and the order of values

Values of different classes sort NULL first, then numbers, then text, then
blobs. Numbers compare by their exact values, integers against doubles too.
Text compares under a collation:

* `BINARY` compares the bytes, a shorter text before a longer one it begins;
* `NOCASE` does the same with ASCII letters folded to lower case;
* `RTRIM` ignores trailing spaces and then compares the bytes.

Blobs compare by their bytes.
-/

namespace ReportExport.Sql

open Text

/-- The built-in collations. -/
inductive Collation where
  | binary
  | nocase
  | rtrim
  deriving Repr, DecidableEq, Inhabited

namespace Collation

/-- The collation of a name, in any case. -/
def ofName? (name : String) : Option Collation :=
  match name.toUpper with
  | "BINARY" => some .binary
  | "NOCASE" => some .nocase
  | "RTRIM" => some .rtrim
  | _ => none

/-- The collation's name as the catalog lists it. -/
def name : Collation → String
  | .binary => "BINARY"
  | .nocase => "NOCASE"
  | .rtrim => "RTRIM"

end Collation

/-- Compares byte strings: the first differing byte decides, else the
shorter is first. -/
def compareBytes : Bytes → Bytes → Ordering
  | [], [] => .eq
  | [], _ :: _ => .lt
  | _ :: _, [] => .gt
  | a :: as, b :: bs => if a < b then .lt else if b < a then .gt else compareBytes as bs

/-- Compares at most `n` bytes with ASCII letters folded, stopping at a NUL
byte of the first: the order of the first differing bytes, or equal. -/
def compareFolded : Nat → Bytes → Bytes → Ordering
  | 0, _, _ => .eq
  | _ + 1, [], [] => .eq
  | _ + 1, [], b :: _ => compare (0 : Nat) (lowerByte b).toNat
  | _ + 1, a :: _, [] => compare (lowerByte a).toNat 0
  | n + 1, a :: as, b :: bs =>
    if a != 0 && lowerByte a == lowerByte b then compareFolded n as bs
    else compare (lowerByte a).toNat (lowerByte b).toNat

/-- Drops trailing spaces. -/
def dropTrailingSpaces (bs : Bytes) : Bytes := (bs.reverse.dropWhile (· == 0x20)).reverse

/-- Compares two texts under a collation. -/
def Collation.compareText (c : Collation) (a b : Bytes) : Ordering :=
  match c with
  | .binary => compareBytes a b
  | .nocase =>
    match compareFolded (min a.length b.length) a b with
    | .eq => compare a.length b.length
    | o => o
  | .rtrim => compareBytes (dropTrailingSpaces a) (dropTrailingSpaces b)

/-- Compares an integer with a double by their exact values; every integer
is above a NaN. -/
def compareIntReal (i : Int) (r : Float) : Ordering :=
  if r.isNaN then .gt
  else if r.isInf then (if r > 0 then .lt else .gt)
  else
    match Decimal.Binary.ofFloat? r with
    | none => compare i 0
    | some b =>
      -- compare i with ±mantissa·2^exponent exactly
      let (num, den) : Nat × Nat :=
        if b.exponent ≥ 0 then (b.mantissa * Nat.pow 2 b.exponent.toNat, 1)
        else (b.mantissa, Nat.pow 2 (-b.exponent).toNat)
      let lhs : Int := i * den
      let rhs : Int := if b.negative then -(num : Int) else num
      compare lhs rhs

/-- Compares two doubles; a NaN compares equal to anything. -/
def compareReals (a b : Float) : Ordering :=
  if a < b then .lt else if b < a then .gt else .eq

/-- The order of two values under a collation for text. -/
def SqlValue.compareWith (c : Collation) (a b : SqlValue) : Ordering :=
  match a, b with
  | .null, .null => .eq
  | .null, _ => .lt
  | _, .null => .gt
  | .integer x, .integer y => compare x y
  | .real x, .real y => compareReals x y
  | .integer x, .real y => compareIntReal x y
  | .real x, .integer y => (compareIntReal y x).swap
  | .integer _, _ | .real _, _ => .lt
  | _, .integer _ | _, .real _ => .gt
  | .text x, .text y => c.compareText x y
  | .text _, .blob _ => .lt
  | .blob _, .text _ => .gt
  | .blob x, .blob y => compareBytes x y

/-- The order of two values with binary collation. -/
def SqlValue.compare (a b : SqlValue) : Ordering := a.compareWith .binary b

end ReportExport.Sql
