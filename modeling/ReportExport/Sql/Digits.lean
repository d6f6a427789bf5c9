import ReportExport.Decimal.Extended

/-!
# The decimal digits of a double, as the engine prints them

To print a double the engine first brings it between `1e17` and `1e19` by
powers of ten in 64-bit-significand arithmetic (dividing by `1e100`, `1e10`
and `10`, or multiplying by them, each product rounded), takes the integer
part of the result as the digits, and notes the position of the decimal
point. The digits are then rounded half up, either to a number of
significant digits or at a decimal place, and never to more than a given
number of digits; trailing zeros are dropped.

From the digits a double is written in one of three conversions, fixed,
scientific or general, with the flags of formatted printing. The text of a
double stored as text (`realText`) is the general conversion with fifteen
significant digits, a `.0` kept on integral values.
-/

namespace ReportExport.Sql

open Decimal

/-- What kind of double is printed. -/
inductive FloatKind where
  | finite
  | infinite
  | notANumber
  deriving Repr, DecidableEq, Inhabited

/-- The digits of a double: the sign, the significant digits without
trailing zeros (`[0]` for zero), and the position of the decimal point, so
that the value is `0.d₁d₂… · 10 ^ point`. -/
structure DecimalDigits where
  negative : Bool
  kind : FloatKind := .finite
  digits : List Nat
  point : Int
  deriving Repr, Inhabited

/-- How digits are rounded: to a number of significant digits, or at a number
of places after the decimal point. -/
inductive DigitRounding where
  | significant (count : Nat)
  | places (count : Nat)
  deriving Repr, DecidableEq

/-- The decimal digits of a natural number, most significant first. -/
def natDigits (n : Nat) : List Nat := (Nat.toDigits 10 n).map fun c => c.toNat - 48

/-- Repeats a step while a test holds, at most `fuel` times. -/
def iterateWhile {α : Type} (test : α → Bool) (step : α → α) (a : α) : Nat → α
  | 0 => a
  | fuel + 1 => if test a then iterateWhile test step (step a) fuel else a

/-- Brings a positive finite value between `1e17` and `1e19` by powers of ten:
the scaled value and the power of ten taken out of it. -/
def scaleIntoRange (r : Extended) : Extended × Int :=
  if r.ge (Extended.ofNat 10000000000000000000) then
    let big := iterateWhile (fun (x, _) => x.ge (Extended.tenTo 119))
      (fun (x, e) => (x * Extended.tenTo (-100), e + 100)) (r, (0 : Int)) 40
    let big := iterateWhile (fun (x, _) => x.ge (Extended.tenTo 29))
      (fun (x, e) => (x * Extended.tenTo (-10), e + 10)) big 40
    iterateWhile (fun (x, _) => x.ge (Extended.tenTo 19))
      (fun (x, e) => (x * Extended.tenTo (-1), e + 1)) big 40
  else
    let small := iterateWhile (fun (x, _) => x.lt (Extended.tenTo (-97)))
      (fun (x, e) => (x * Extended.tenTo 100, e - 100)) (r, (0 : Int)) 40
    let small := iterateWhile (fun (x, _) => x.lt (Extended.tenTo 7))
      (fun (x, e) => (x * Extended.tenTo 10, e - 10)) small 40
    iterateWhile (fun (x, _) => x.lt (Extended.tenTo 17))
      (fun (x, e) => (x * Extended.tenTo 1, e - 1)) small 40

/-- Adds one to the last of a list of digits, carrying: the digits and whether
a carry went out of the first. -/
def incrementDigits (ds : List Nat) : List Nat × Bool :=
  let (out, carry) := ds.foldr (fun d (acc, carry) =>
    if carry then (if d == 9 then (0 :: acc, true) else ((d + 1) :: acc, false)) else (d :: acc, false))
    ([], true)
  (out, carry)

/-- Drops trailing zeros, keeping at least one digit. -/
def dropTrailingZeros (ds : List Nat) : List Nat :=
  match (ds.reverse.dropWhile (· == 0)).reverse with
  | [] => ds.take 1
  | r => r

/-- The digits of a double, rounded half up as `rounding` asks, to at most
`maxDigits` digits. -/
def decimalDigits (r : Float) (rounding : DigitRounding) (maxDigits : Nat) : DecimalDigits :=
  let negative := r < 0.0
  let r := if negative then -r else r
  if r == 0.0 then { negative := false, digits := [0], point := 1 }
  else if r.isNaN then { negative, kind := .notANumber, digits := [], point := 0 }
  else if r.isInf then { negative, kind := .infinite, digits := [], point := 0 }
  else
    let (scaled, e) := scaleIntoRange (Extended.ofDouble r)
    let ds := natDigits scaled.truncate
    let point : Int := ds.length + e
    -- rounding at a place counts from the decimal point; a value that rounds
    -- to its first digit from below gains a leading zero to carry into
    let (ds, point, target) : List Nat × Int × Int := match rounding with
      | .significant k => (ds, point, k)
      | .places k =>
        let target := point + k
        if target == 0 && ds.headD 0 ≥ 5 then (0 :: ds, point + 1, 1) else (ds, point, target)
    let n := ds.length
    let (ds, point) :=
      if target > 0 && (target < n || n > maxDigits) then
        let keepCount := min target.toNat maxDigits
        let kept := ds.take keepCount
        if ds.getD keepCount 0 ≥ 5 then
          let (up, carry) := incrementDigits kept
          if carry then (1 :: up, point + 1) else (up, point)
        else (kept, point)
      else (ds, point)
    { negative, digits := dropTrailingZeros ds, point }

/-- The conversions of a double. -/
inductive RealConversion where
  /-- digits with a fixed number of places -/
  | fixed
  /-- one digit, places, and an exponent -/
  | scientific
  /-- scientific for very small or large values, else fixed, trailing zeros
  dropped -/
  | general
  deriving Repr, DecidableEq, Inhabited

/-- How a double is written: the conversion and the flags of the format. -/
structure RealFormat where
  conversion : RealConversion
  /-- places (fixed, scientific) or significant digits (general); six when
  absent -/
  precision : Option Nat := none
  /-- `E` rather than `e` before the exponent -/
  upperCase : Bool := false
  /-- always write the point, and keep trailing zeros in the general conversion -/
  alternate : Bool := false
  /-- round to up to 26 digits instead of 16, drop trailing zeros but keep one
  after the point -/
  extended : Bool := false
  /-- the sign written before a non-negative value, if any -/
  signPrefix : Option Char := none
  /-- pad with zeros after the sign up to the width -/
  zeroPad : Bool := false
  leftJustify : Bool := false
  width : Nat := 0
  /-- a comma between groups of three digits before the point -/
  thousands : Bool := false
  deriving Repr, Inhabited

/-- Writes the digits of a finite double in a conversion. -/
def writeDigits (f : RealFormat) (d : DecimalDigits) (conversion : RealConversion) (precision : Nat) :
    String :=
  let signChar : Option Char := if d.negative then some '-' else f.signPrefix
  let exp := d.point - 1
  let (precision, conversion, dropZeros) : Int × RealConversion × Bool :=
    match conversion with
    | .general =>
      let p : Int := (precision : Int) - 1
      if exp < -4 || exp > p then (p, .scientific, !f.alternate) else (p - exp, .fixed, !f.alternate)
    | c => (precision, c, f.extended)
  let digitAt (j : Nat) : Char := Char.ofNat (48 + d.digits.getD j 0)
  let e2 : Int := if conversion == .scientific then 0 else d.point - 1
  let showPoint := precision > 0 || f.alternate || f.extended
  -- digits before the point
  let (before, used) : List Char × Nat :=
    if e2 < 0 then (['0'], 0)
    else
      (List.range (e2.toNat + 1)).foldl (fun (acc, j) (k : Nat) =>
        let place : Int := e2 - k
        let acc := acc ++ [digitAt j]
        let acc := if f.thousands && place % 3 == 0 && place > 1 then acc ++ [','] else acc
        (acc, j + 1)) ([], 0)
  -- zeros between the point and the first significant digit, then digits
  let leading : Nat := if e2 < 0 then min (-(e2 + 1)).toNat precision.toNat else 0
  let remaining := precision.toNat - leading
  let after := List.replicate leading '0' ++ (List.range remaining).map fun k => digitAt (used + k)
  let body := before ++ (if showPoint then ['.'] else []) ++ after
  let body :=
    if dropZeros && showPoint then
      let trimmed := (body.reverse.dropWhile (· == '0')).reverse
      match trimmed.reverse with
      | '.' :: rest => if f.extended then trimmed ++ ['0'] else rest.reverse
      | _ => trimmed
    else body
  let exponent : List Char :=
    if conversion == .scientific then
      let e := d.point - 1
      let mag := e.natAbs
      [if f.upperCase then 'E' else 'e', if e < 0 then '-' else '+'] ++
        (if mag ≥ 100 then [Char.ofNat (48 + mag / 100)] else []) ++
        [Char.ofNat (48 + (mag % 100) / 10), Char.ofNat (48 + mag % 10)]
    else []
  let text := (match signChar with | some c => [c] | none => []) ++ body ++ exponent
  if f.zeroPad && !f.leftJustify && text.length < f.width then
    let pad := List.replicate (f.width - text.length) '0'
    String.ofList (match signChar with
      | some c => c :: pad ++ text.drop 1
      | none => pad ++ text)
  else String.ofList text

/-- Writes a double in a format (before padding to the width with blanks). -/
def formatReal (f : RealFormat) (r : Float) : String :=
  let precision := f.precision.getD 6
  let (rounding, precision) := match f.conversion with
    | .fixed => (DigitRounding.places precision, precision)
    | .general =>
      let p := if precision == 0 then 1 else precision
      (DigitRounding.significant p, p)
    | .scientific => (DigitRounding.significant (precision + 1), precision)
  let d := decimalDigits r rounding (if f.extended then 26 else 16)
  match d.kind with
  | .notANumber => if f.zeroPad then "null" else "NaN"
  | .infinite =>
    if f.zeroPad then writeDigits f { d with digits := [9], point := 1000 } f.conversion precision
    else if d.negative then "-Inf"
    else match f.signPrefix with
      | some c => String.singleton c ++ "Inf"
      | none => "Inf"
  | .finite => writeDigits f d f.conversion precision

/-- The text of a double stored as text: fifteen significant digits, with a
point and a digit after it always shown. -/
def realText (r : Float) : String :=
  formatReal { conversion := .general, precision := some 15, extended := true } r

end ReportExport.Sql
