import ReportExport.Decimal.Binary

/-!
# Reading decimal text as a double

The accepted text is an optional sign followed by `inf`, `infinity` or `nan`
in any letter case, or by digits with an optional point (at least one digit on
either side of it) and an optional exponent `e`/`E` with its own optional sign
and at least one digit. The value is the double nearest to the exact decimal,
ties to even.
-/

namespace ReportExport.Decimal

/-- Natural number of a list of ASCII digits. -/
def digitsValue (ds : List Char) : Nat :=
  ds.foldl (fun acc d => acc * 10 + (d.toNat - 48)) 0

/-- The double nearest to `± m · 10 ^ e`; magnitudes far beyond the range of
doubles are settled without computing the power. -/
def ofDecimal (negative : Bool) (m : Nat) (e : Int) : Float :=
  if m = 0 then nearest negative 0 1
  else
    let d : Int := (Nat.toDigits 10 m).length
    if d - 1 + e > 310 then (if negative then -infinity else infinity)
    else if d + e < -345 then nearest negative 0 1
    else if e ≥ 0 then nearest negative (m * Nat.pow 10 e.toNat) 1
    else nearest negative m (Nat.pow 10 (-e).toNat)

/-- Splits an optional leading sign off. -/
def splitSign : List Char → Bool × List Char
  | '-' :: rest => (true, rest)
  | '+' :: rest => (false, rest)
  | cs => (false, cs)

/-- Reads a double from decimal text; `none` when the text is not one. -/
def readFloat? (s : String) : Option Float :=
  let (negative, body) := splitSign s.toList
  let lower := String.ofList (body.map Char.toLower)
  if lower = "inf" || lower = "infinity" then
    some (if negative then -infinity else infinity)
  else if lower = "nan" then some notANumber
  else
    let whole := body.takeWhile Char.isDigit
    let rest := body.dropWhile Char.isDigit
    let (frac, rest) := match rest with
      | '.' :: r => (r.takeWhile Char.isDigit, r.dropWhile Char.isDigit)
      | r => ([], r)
    if whole.isEmpty && frac.isEmpty then none
    else
      let exponent : Option Int := match rest with
        | [] => some 0
        | c :: r =>
          if c = 'e' || c = 'E' then
            let (eneg, edigits) := splitSign r
            if !edigits.isEmpty && edigits.all Char.isDigit then
              let v : Int := digitsValue edigits
              some (if eneg then -v else v)
            else none
          else none
      exponent.map fun e => ofDecimal negative (digitsValue (whole ++ frac)) (e - frac.length)

end ReportExport.Decimal
