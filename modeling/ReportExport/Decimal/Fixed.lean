import ReportExport.Decimal.Binary

/-!
# Doubles with a fixed number of decimals

The text of a double rounded to a given number of decimals, as a format with
a precision prints it: the exact binary value is scaled by a power of ten and
rounded to the nearest integer, a tie going to the even neighbour, and the
digits are then split at the decimal point. A negative value keeps its sign
even when it rounds to zero. Infinities print as `inf` and NaN as `NaN`.
-/

namespace ReportExport.Decimal

/-- The digits of `n` with a decimal point before the last `places` of them,
padded with zeros so that at least one digit stands before the point. -/
def pointed (n places : Nat) : String :=
  let ds := Nat.toDigits 10 n
  let ds := List.replicate (places + 1 - ds.length) '0' ++ ds
  if places = 0 then String.ofList ds
  else String.ofList (ds.take (ds.length - places)) ++ "." ++ String.ofList (ds.drop (ds.length - places))

/-- The magnitude of `mantissa · 2 ^ exponent` in units of `10 ^ (-places)`,
rounded half to even. -/
def scaledMagnitude (mantissa : Nat) (exponent : Int) (places : Nat) : Nat :=
  if 0 ≤ exponent then mantissa * Nat.pow 2 exponent.toNat * Nat.pow 10 places
  else roundHalfEven (mantissa * Nat.pow 10 places) (Nat.pow 2 (-exponent).toNat)

/-- The text of a double with exactly `places` decimals. -/
def fixed (f : Float) (places : Nat) : String :=
  match Binary.ofFloat? f with
  | some b =>
    (if b.negative then "-" else "") ++ pointed (scaledMagnitude b.mantissa b.exponent places) places
  | none => if f.isNaN then "NaN" else if f < 0 then "-inf" else "inf"

end ReportExport.Decimal
