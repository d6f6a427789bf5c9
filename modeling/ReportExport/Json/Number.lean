import ReportExport.Decimal.Shortest

/-!
# JSON numbers

A JSON number is kept the way the data model reads it: an integer literal that
fits a signed or an unsigned 64-bit word stays an integer, everything else is a
finite double. The text of a double is its shortest decimal, written
positionally for magnitudes in `[1e-5, 1e16)` (integral values keep `.0`) and
in scientific form otherwise (`1e+16`, `2.5e-308`).
-/

namespace ReportExport

/-- A JSON number: an integer within `[-2^63, 2^64)` or a finite double. -/
inductive Number where
  | int (value : Int)
  | float (value : Float)
  deriving Inhabited

namespace Number

/-- Integers compare as integers, doubles as doubles (`0.0 = -0.0`), and an
integer never equals a double. -/
def beq : Number → Number → Bool
  | .int a, .int b => a == b
  | .float a, .float b => a == b
  | _, _ => false

instance : BEq Number := ⟨beq⟩

/-- The value as a double: integers round to the nearest double. -/
def toFloat : Number → Float
  | .int i => Decimal.ofInt i
  | .float f => f

/-- A double as a number, or `none` when it is infinite or NaN. -/
def ofFloat? (f : Float) : Option Number :=
  if f.isNaN || f.isInf then none else some (.float f)

end Number

/-- Where positional notation ends and how the scientific form is spelled. -/
structure FloatStyle where
  /-- Decimal exponent of the leading digit below which scientific form is used. -/
  leastPositional : Int
  /-- Decimal exponent of the leading digit from which scientific form is used. -/
  firstScientific : Int
  /-- Mark between mantissa and exponent. -/
  mark : String
  /-- Whether a non-negative exponent carries a `+`. -/
  plusSign : Bool

/-- Doubles in JSON text: positional in `[1e-5, 1e16)`, otherwise `1.5e+300`. -/
def FloatStyle.json : FloatStyle :=
  { leastPositional := -5, firstScientific := 16, mark := "e", plusSign := true }

/-- Decimal text of a natural number. -/
def natText (n : Nat) : String := String.ofList (Nat.toDigits 10 n)

/-- Decimal text of an integer, with a leading `-` when negative. -/
def intText (i : Int) : String :=
  if i < 0 then "-" ++ natText i.natAbs else natText i.natAbs

/-- The text of a finite double's magnitude from its shortest digits. -/
def FloatStyle.magnitude (style : FloatStyle) (sci : Decimal.Scientific) : String :=
  if sci.digits = 0 then "0.0" else
  let ds := natText sci.digits
  let len : Int := ds.length
  -- the value is `0.ds · 10 ^ point`, so the leading digit has exponent `point - 1`
  let point := len + sci.exponent
  if style.leastPositional < point && point ≤ style.firstScientific then
    if sci.exponent ≥ 0 then
      ds ++ String.ofList (List.replicate sci.exponent.toNat '0') ++ ".0"
    else if point > 0 then
      let (whole, frac) := ds.toList.splitAt point.toNat
      String.ofList whole ++ "." ++ String.ofList frac
    else
      "0." ++ String.ofList (List.replicate (-point).toNat '0') ++ ds
  else
    let lead := point - 1
    let sign := if lead < 0 then "-" else if style.plusSign then "+" else ""
    let mantissa := match ds.toList with
      | [d] => String.singleton d
      | d :: rest => String.singleton d ++ "." ++ String.ofList rest
      | [] => "0"
    mantissa ++ style.mark ++ sign ++ natText lead.natAbs

/-- The text of a finite double; infinities and NaN have none. -/
def FloatStyle.text? (style : FloatStyle) (f : Float) : Option String :=
  match Decimal.Binary.ofFloat? f with
  | none => none
  | some b =>
    let body := style.magnitude (if b.mantissa = 0 then ⟨0, 0⟩ else Decimal.shortestOf b)
    some (if b.negative then "-" ++ body else body)

namespace Number

/-- The JSON text of a number. -/
def text : Number → String
  | .int i => intText i
  | .float f => (FloatStyle.json.text? f).getD "null"

end Number

end ReportExport
