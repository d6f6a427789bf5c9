import ReportExport.Decimal.Binary

/-!
# Numbers with a 64-bit significand

The extended format of x86 processors keeps 64 significant bits. Scaling a
number by powers of ten in that format, one rounded product at a time, gives
results that differ in the last bits from exact arithmetic; text conversions
that scale this way inherit those bits, so they are computed here exactly as
the format rounds them.

A value is `significand · 2 ^ exponent` with the significand zero or of exactly
64 bits. Every operation is exact rational arithmetic followed by one rounding
to 64 bits, ties to the even significand. The exponent is not bounded: the
conversions that use this module stay far from the format's limits, and a
value too large for a double still compares above the largest double.
-/

namespace ReportExport.Decimal

/-- A non-negative number with a 64-bit significand. -/
structure Extended where
  significand : Nat
  exponent : Int
  deriving Repr, DecidableEq, Inhabited

namespace Extended

/-- Zero. -/
def zero : Extended := ⟨0, 0⟩

/-- `num / den · 2 ^ shift` rounded to 64 significant bits, ties to even. -/
def ofRatio (num den : Nat) (shift : Int) : Extended :=
  if num = 0 ∨ den = 0 then zero
  else
    let k := floorLog2 num den
    let (n, d) := scaleByPow2 num den (63 - k)
    let q := roundHalfEven n d
    if q = Nat.pow 2 64 then ⟨Nat.pow 2 63, shift + k - 62⟩ else ⟨q, shift + k - 63⟩

/-- A natural number, rounded to 64 bits. -/
def ofNat (n : Nat) : Extended := ofRatio n 1 0

/-- `10 ^ e`, rounded to 64 bits. -/
def tenTo (e : Int) : Extended :=
  if e ≥ 0 then ofRatio (Nat.pow 10 e.toNat) 1 0 else ofRatio 1 (Nat.pow 10 (-e).toNat) 0

/-- The value as a fraction of naturals. -/
def ratio (a : Extended) : Nat × Nat := scaleByPow2 a.significand 1 a.exponent

/-- The product, rounded to 64 bits. -/
def mul (a b : Extended) : Extended :=
  ofRatio (a.significand * b.significand) 1 (a.exponent + b.exponent)

instance : Mul Extended := ⟨mul⟩

/-- Whether `a < b`. -/
def lt (a b : Extended) : Bool :=
  let (n₁, d₁) := a.ratio
  let (n₂, d₂) := b.ratio
  n₁ * d₂ < n₂ * d₁

/-- Whether `a ≥ b`. -/
def ge (a b : Extended) : Bool := !a.lt b

/-- The double nearest to the value. -/
def toDouble (a : Extended) : Float :=
  let (n, d) := a.ratio
  nearest false n d

/-- The integer part of the value. -/
def truncate (a : Extended) : Nat :=
  let (n, d) := a.ratio
  n / d

/-- A finite non-negative double, exactly. -/
def ofDouble (f : Float) : Extended :=
  match Binary.ofFloat? f with
  | some b => ofRatio b.mantissa 1 b.exponent
  | none => zero

end Extended

end ReportExport.Decimal
