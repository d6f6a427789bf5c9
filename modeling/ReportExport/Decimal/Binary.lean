/-!
# Doubles as exact binary numbers

A finite double is `± mantissa · 2 ^ exponent` with a natural mantissa. This
module reads that form off the bits of a `Float` and builds the double nearest
to an exact rational `num / den`, ties to the even mantissa, as IEEE-754
rounding prescribes. Everything is exact `Nat` arithmetic; a `Float` is only
made at the very end, from its bits.
-/

namespace ReportExport.Decimal

/-- The bits of a finite double, split into sign, significand and the binary
exponent of its last significand bit. -/
structure Binary where
  negative : Bool
  mantissa : Nat
  exponent : Int
  /-- The gap to the next smaller double is half the gap to the next larger one:
  the significand is the lowest of a binade above the subnormal range. -/
  narrowBelow : Bool
  deriving Repr, DecidableEq

/-- Width of the stored fraction of a double. -/
def fractionBits : Nat := 52

/-- Exponent of the last significand bit of a subnormal double. -/
def subnormalExponent : Int := -1074

/-- Splits a bit pattern into `Binary`; the exponent field `0x7ff` (infinities
and NaN) is not finite and gives `none`. -/
def Binary.ofBits (bits : UInt64) : Option Binary :=
  let b : Nat := bits.toNat
  let negative := decide (b / Nat.pow 2 63 % 2 = 1)
  let field : Nat := b / Nat.pow 2 fractionBits % Nat.pow 2 11
  let fraction : Nat := b % Nat.pow 2 fractionBits
  if field = 0x7ff then none
  else if field = 0 then
    some { negative, mantissa := fraction, exponent := subnormalExponent, narrowBelow := false }
  else
    some { negative, mantissa := fraction + Nat.pow 2 fractionBits,
           exponent := (field : Int) - 1075,
           narrowBelow := decide (fraction = 0 ∧ field > 1) }

/-- The exact binary form of a finite double. -/
def Binary.ofFloat? (f : Float) : Option Binary := Binary.ofBits f.toBits

/-- Rounds `num / den` to the nearest natural number, a tie going to the even
neighbour. -/
def roundHalfEven (num den : Nat) : Nat :=
  let q := num / den
  let r := num % den
  if 2 * r < den then q
  else if 2 * r > den then q + 1
  else if q % 2 = 0 then q else q + 1

/-- The largest `k` with `2 ^ k ≤ num / den`, for `0 < num` and `0 < den`. -/
def floorLog2 (num den : Nat) : Int :=
  let guess : Int := (Nat.log2 num : Int) - (Nat.log2 den : Int)
  -- the guess is off by at most one in either direction
  let below (k : Int) : Bool :=
    if k ≥ 0 then decide (den * Nat.pow 2 k.toNat ≤ num) else decide (den ≤ num * Nat.pow 2 (-k).toNat)
  if below (guess + 1) then guess + 1 else if below guess then guess else guess - 1

/-- `num / den · 2 ^ shift` as a fraction of naturals. -/
def scaleByPow2 (num den : Nat) (shift : Int) : Nat × Nat :=
  if shift ≥ 0 then (num * Nat.pow 2 shift.toNat, den) else (num, den * Nat.pow 2 (-shift).toNat)

/-- Bit pattern of the double nearest to `num / den` (positive sign); values
beyond the largest double give the pattern of infinity. -/
def nearestBits (num den : Nat) : UInt64 :=
  if num = 0 ∨ den = 0 then 0
  else
    let k := floorLog2 num den
    if k > 1023 then 0x7ff0000000000000
    else if k ≥ -1022 then
      -- normal range: the significand has 53 bits
      let (n, d) := scaleByPow2 num den (52 - k)
      let q := roundHalfEven n d
      let (q, k) := if q = Nat.pow 2 53 then (Nat.pow 2 52, k + 1) else (q, k)
      if k > 1023 then 0x7ff0000000000000
      else UInt64.ofNat ((k + 1023).toNat * Nat.pow 2 52 + (q - Nat.pow 2 52))
    else
      -- subnormal range: a significand of `2 ^ 52` is the least normal double
      let (n, d) := scaleByPow2 num den 1074
      UInt64.ofNat (roundHalfEven n d)

/-- The double nearest to `± num / den`. -/
def nearest (negative : Bool) (num den : Nat) : Float :=
  let bits := nearestBits num den
  Float.ofBits (if negative then bits ||| 0x8000000000000000 else bits)

/-- Positive infinity. -/
def infinity : Float := Float.ofBits 0x7ff0000000000000

/-- The quiet NaN. -/
def notANumber : Float := Float.ofBits 0x7ff8000000000000

/-- The double nearest to an integer. -/
def ofInt (i : Int) : Float := nearest (decide (i < 0)) i.natAbs 1

end ReportExport.Decimal
