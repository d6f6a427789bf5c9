import ReportExport.Decimal.Binary

/-!
# Shortest decimal digits of a double

The digits written for a finite double are the fewest that read back to the
same double; of two candidates with that many digits the one nearer to the
exact value wins, and an exact tie goes to the even one.

A double `m · 2 ^ e` reads back from every real in the interval halfway to its
neighbours (ends included when `m` is even, since reading rounds ties to the
even significand). With `n` significant digits the only candidates worth
testing are the two grid points around the exact value: if any `n`-digit
decimal lies in the interval, so does one of those two, since the interval is
convex and contains the value. So the search walks `n = 1, 2, …` and stops at
the first length with a hit; at the length of the exact expansion the value
itself is a hit, which bounds the walk.
-/

namespace ReportExport.Decimal

/-- A decimal `digits · 10 ^ exponent` with no trailing zero in `digits`
(unless it is zero). -/
structure Scientific where
  digits : Nat
  exponent : Int
  deriving Repr, DecidableEq

/-- Number of decimal digits of a natural number; zero has one. -/
def digitCount (n : Nat) : Nat := (Nat.toDigits 10 n).length

/-- Moves trailing zeros of the digits into the exponent. -/
def Scientific.normalize (digits : Nat) (exponent : Int) : Scientific :=
  go digits exponent (digitCount digits)
where
  go (d : Nat) (e : Int) : Nat → Scientific
    | 0 => ⟨d, e⟩
    | fuel + 1 => if d ≠ 0 ∧ d % 10 = 0 then go (d / 10) (e + 1) fuel else ⟨d, e⟩

/-- The exact value of a positive double in quarter units of `10 ^ (-s)`:
returns `(D, s, g)` with value `D · 10 ^ (-s)` and gap `4 · g` to the next
larger double, both measured in units of `10 ^ (-s) / 4`. -/
def exactParts (m : Nat) (e : Int) : Nat × Nat × Nat :=
  if e ≥ 0 then (m * Nat.pow 2 e.toNat, 0, Nat.pow 2 e.toNat)
  else (m * Nat.pow 5 (-e).toNat, (-e).toNat, Nat.pow 5 (-e).toNat)

/-- The shortest decimal of a positive double given by its binary form. -/
def shortestOf (b : Binary) : Scientific :=
  let (D, s, g) := exactParts b.mantissa b.exponent
  let V := 4 * D
  let hi := V + 2 * g
  let lo := if b.narrowBelow then V - g else V - 2 * g
  let inside (x : Nat) : Bool :=
    if b.mantissa % 2 = 0 then decide (lo ≤ x ∧ x ≤ hi) else decide (lo < x ∧ x < hi)
  let L := digitCount D
  let attempt (n : Nat) : Option Scientific :=
    let p := Nat.pow 10 (L - n)
    let q := D / p
    let r := D % p
    let lowOk := inside (4 * q * p)
    let highOk := r > 0 && inside (4 * (q + 1) * p)
    let exp : Int := ((L - n : Nat) : Int) - (s : Int)
    let pick (c : Nat) : Option Scientific := some (Scientific.normalize c exp)
    if lowOk && highOk then
      if 2 * r < p then pick q
      else if 2 * r > p then pick (q + 1)
      else if q % 2 = 0 then pick q else pick (q + 1)
    else if lowOk then pick q
    else if highOk then pick (q + 1)
    else none
  match (List.range' 1 L).findSome? attempt with
  | some sci => sci
  | none => Scientific.normalize D (-(s : Int))

/-- The shortest decimal of a finite double's magnitude; zero is `0 · 10 ^ 0`. -/
def shortest (f : Float) : Option Scientific :=
  match Binary.ofFloat? f with
  | none => none
  | some b => if b.mantissa = 0 then some ⟨0, 0⟩ else some (shortestOf b)

end ReportExport.Decimal
