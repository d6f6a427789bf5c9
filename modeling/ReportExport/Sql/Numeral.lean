import ReportExport.Decimal.Extended
import ReportExport.Text.Utf8

/-!
# Reading numbers out of text

The engine reads numbers out of the bytes of a text in two ways.

* As a double: blanks, a sign, digits with an optional point, an optional
  exponent, blanks. The significand keeps at most nineteen or so digits;
  further digits only move the exponent. The significand is then scaled by
  powers of ten in 64-bit-significand arithmetic (by `1e100`, `1e10` and
  `10`, each product rounded) and rounded to a double. The reading also
  reports the shape of what it read (`TextShape`), which decides whether a
  text counts as an integer, a real, a number followed by other text, or no
  number.
* As a 64-bit integer: blanks, a sign, digits, blanks. Values out of range
  are clamped, and the reading reports whether the text was all number, had
  other text after it, or overflowed.

Blanks here are the ASCII white-space bytes: tab, line feed, vertical tab,
form feed, carriage return and space.
-/

namespace ReportExport.Sql

open Text

/-- The smallest 64-bit integer. -/
def minInteger : Int := -9223372036854775808

/-- The largest 64-bit integer. -/
def maxInteger : Int := 9223372036854775807

/-- Whether an integer fits in 64 bits. -/
def fitsInteger (i : Int) : Bool := minInteger ≤ i && i ≤ maxInteger

/-- An integer wrapped into 64 bits, two's complement. -/
def wrapInteger (i : Int) : Int :=
  let m := i % 18446744073709551616
  if m ≥ 9223372036854775808 then m - 18446744073709551616 else m

/-- The ASCII blanks: tab, line feed, vertical tab, form feed, carriage return
and space. -/
def isBlankByte (b : UInt8) : Bool := b == 0x20 || (0x09 ≤ b && b ≤ 0x0d)

/-- Whether a byte is an ASCII digit. -/
def isDigitByte (b : UInt8) : Bool := 0x30 ≤ b && b ≤ 0x39

/-- The value of an ASCII digit. -/
def digitOf (b : UInt8) : Nat := b.toNat - 0x30

/-- Whether a byte is an ASCII hexadecimal digit. -/
def isHexByte (b : UInt8) : Bool :=
  isDigitByte b || (0x41 ≤ b && b ≤ 0x46) || (0x61 ≤ b && b ≤ 0x66)

/-- The value of an ASCII hexadecimal digit. -/
def hexOf (b : UInt8) : Nat :=
  if isDigitByte b then digitOf b else if b ≤ 0x46 then b.toNat - 0x37 else b.toNat - 0x57

/-- What a reading of a number found. -/
inductive TextShape where
  /-- no number, or an integer followed by other text -/
  | none
  /-- a number with a point or an exponent, followed by other text -/
  | prefixOnly
  /-- the whole text is an integer -/
  | integer
  /-- the whole text is a number with a point or an exponent -/
  | decimal
  deriving Repr, DecidableEq, Inhabited

/-- The largest significand that still takes another digit. -/
def significandLimit : Nat := (18446744073709551615 - 9) / 10

/-- The largest significand that may still be scaled up by ten exactly. -/
def scaleLimit : Nat := (18446744073709551615 - 0x7ff) / 10

/-- The state of reading a number's digits. -/
structure DigitScan where
  significand : Nat := 0
  /-- the power of ten the significand is to be scaled by -/
  shift : Int := 0
  /-- how many digits went into the significand -/
  digits : Nat := 0

/-- Reads the digits before the point: once the significand is full, further
digits only raise the scale. -/
def readWhole (st : DigitScan) : Bytes → DigitScan × Bytes
  | [] => (st, [])
  | b :: rest =>
    if isDigitByte b then
      let st := { st with significand := st.significand * 10 + digitOf b, digits := st.digits + 1 }
      if st.significand ≥ significandLimit then
        let more := rest.takeWhile isDigitByte
        ({ st with shift := st.shift + more.length }, rest.drop more.length)
      else readWhole st rest
    else (st, b :: rest)

/-- Reads the digits after the point: digits beyond a full significand are
dropped. -/
def readFraction (st : DigitScan) : Bytes → DigitScan × Bytes
  | [] => (st, [])
  | b :: rest =>
    if isDigitByte b then
      if st.significand < significandLimit then
        readFraction { significand := st.significand * 10 + digitOf b, shift := st.shift - 1,
                       digits := st.digits + 1 } rest
      else readFraction st rest
    else (st, b :: rest)

/-- Reads exponent digits, saturating at 10000. -/
def readExponentDigits (e : Nat) (seen : Bool) : Bytes → Nat × Bool × Bytes
  | [] => (e, seen, [])
  | b :: rest =>
    if isDigitByte b then
      readExponentDigits (if e < 10000 then e * 10 + digitOf b else 10000) true rest
    else (e, seen, b :: rest)

/-- Scales a significand by a power of ten the way the engine does: exact
steps while the significand has room, then products in 64-bit-significand
arithmetic, then one rounding to a double. -/
def scaleToDouble (s : Nat) (e : Int) : Float :=
  -- move factors of ten into the significand while it has room
  let rec up (s : Nat) (e : Nat) : Nat → Nat × Nat
    | 0 => (s, e)
    | fuel + 1 => if e > 0 && s < scaleLimit then up (s * 10) (e - 1) fuel else (s, e)
  let rec down (s : Nat) (e : Nat) : Nat → Nat × Nat
    | 0 => (s, e)
    | fuel + 1 => if e > 0 && s % 10 == 0 then down (s / 10) (e - 1) fuel else (s, e)
  let (s, e) : Nat × Int :=
    if e > 0 then let (s, k) := up s e.toNat (e.toNat + 1); (s, (k : Int))
    else let (s, k) := down s (-e).toNat ((-e).toNat + 1); (s, -(k : Int))
  if e == 0 then Decimal.nearest false s 1
  else
    let steps (r : Decimal.Extended) (k : Nat) (factor : Decimal.Extended) (size : Nat) :
        Decimal.Extended × Nat :=
      ((List.range (k / size)).foldl (fun acc _ => acc * factor) r, k % size)
    let r := Decimal.Extended.ofNat s
    let k := e.natAbs
    let sign : Int := if e > 0 then 1 else -1
    let (r, k) := steps r k (Decimal.Extended.tenTo (sign * 100)) 100
    let (r, k) := steps r k (Decimal.Extended.tenTo (sign * 10)) 10
    let (r, _) := steps r k (Decimal.Extended.tenTo sign) 1
    -- the largest double, `(2 ^ 53 - 1) · 2 ^ 971`, exact in the format
    let limit := Decimal.Extended.ofRatio (Nat.pow 2 53 - 1) 1 971
    if limit.lt r then Decimal.infinity else r.toDouble

/-- Reads a double out of text: the value, and the shape of what was read. A
text with no digits reads as zero, keeping a minus sign. -/
def readReal (z : Bytes) : Float × TextShape :=
  let z := z.dropWhile isBlankByte
  if z.isEmpty then (0.0, .none)
  else
    let (negative, z) := match z with
      | 0x2d :: r => (true, r)
      | 0x2b :: r => (false, r)
      | r => (false, r)
    let (st, z) := readWhole {} z
    let (pointSeen, st, z) := match z with
      | 0x2e :: r => let (st, r) := readFraction st r; (true, st, r)
      | r => (false, st, r)
    let (expSeen, expValid, expValue, z) : Bool × Bool × Int × Bytes := match z with
      | e :: r =>
        if e == 0x65 || e == 0x45 then
          let (neg, r) := match r with
            | 0x2d :: r' => (true, r')
            | 0x2b :: r' => (false, r')
            | r' => (false, r')
          let (n, seen, r) := readExponentDigits 0 false r
          (true, seen, if neg then -(n : Int) else n, r)
        else (false, true, 0, e :: r)
      | [] => (false, true, 0, [])
    let z := z.dropWhile isBlankByte
    let value :=
      if st.significand == 0 then (if negative then -0.0 else 0.0)
      else
        let f := scaleToDouble st.significand (expValue + st.shift)
        if negative then -f else f
    let kind : Nat := 1 + (if pointSeen then 1 else 0) + (if expSeen then 1 else 0)
    let shape :=
      if z.isEmpty && st.digits > 0 && expValid then
        (if kind == 1 then TextShape.integer else .decimal)
      else if kind ≥ 2 && (kind == 3 || expValid) && st.digits > 0 then .prefixOnly
      else .none
    (value, shape)

/-- What reading a 64-bit integer out of text found. -/
inductive IntegerShape where
  /-- the whole text is an integer that fits -/
  | exact
  /-- the integer fits and other text follows it -/
  | trailing
  /-- there are no digits -/
  | noDigits
  /-- the integer is out of range and was clamped -/
  | overflow
  /-- the digits spell 9223372036854775808 without a minus sign -/
  | justAbove
  deriving Repr, DecidableEq, Inhabited

/-- Whether the shape stands for an integer that fits: nothing, or blanks,
or other text after it; no digits counts too. -/
def IntegerShape.fits : IntegerShape → Bool
  | .exact | .trailing | .noDigits => true
  | _ => false

/-- Reads a 64-bit integer out of text: the value, clamped when out of range,
and the shape. -/
def readInteger (z : Bytes) : Int × IntegerShape :=
  let z := z.dropWhile isBlankByte
  let (negative, z) := match z with
    | 0x2d :: r => (true, r)
    | 0x2b :: r => (false, r)
    | r => (false, r)
  let afterZeros := z.dropWhile (· == 0x30)
  let ds := afterZeros.takeWhile isDigitByte
  let rest := afterZeros.drop ds.length
  let u := ds.foldl (fun n d => n * 10 + digitOf d) 0
  let shape : IntegerShape :=
    if ds.isEmpty && afterZeros.length == z.length then .noDigits
    else if rest.all isBlankByte then .exact
    else .trailing
  if ds.length < 19 || u < 9223372036854775808 then
    (if negative then -(u : Int) else u, shape)
  else if u > 9223372036854775808 || ds.length > 19 then
    (if negative then minInteger else maxInteger, .overflow)
  else if negative then (minInteger, shape)
  else (maxInteger, .justAbove)

/-- Reads an integer literal: hexadecimal after `0x`, up to sixteen
significant digits taken as 64 bits two's complement, or decimal. The shape
of a hexadecimal literal is `overflow` beyond sixteen digits and `trailing`
when other text follows. -/
def readIntegerLiteral (z : Bytes) : Int × IntegerShape :=
  match z with
  | 0x30 :: x :: rest =>
    if x == 0x78 || x == 0x58 then
      let afterZeros := rest.dropWhile (· == 0x30)
      let ds := afterZeros.takeWhile isHexByte
      let u := ds.foldl (fun n d => (n * 16 + hexOf d) % 18446744073709551616) 0
      let v := wrapInteger u
      if ds.length > 16 then (v, .overflow)
      else if (afterZeros.drop ds.length).isEmpty then (v, .exact)
      else (v, .trailing)
    else
      let n := (z.takeWhile fun b => isDigitByte b || b == 0x2b || b == 0x2d || b == 0x20 ||
        b == 0x0a || b == 0x09).length
      readInteger (z.take (n + 1))
  | _ =>
    let n := (z.takeWhile fun b => isDigitByte b || b == 0x2b || b == 0x2d || b == 0x20 ||
      b == 0x0a || b == 0x09).length
    readInteger (z.take (n + 1))

/-- A double converted to a 64-bit integer: truncated toward zero, and
clamped beyond ±9223372036854774784. -/
def realToInteger (r : Float) : Int :=
  if r < -9223372036854774784.0 then minInteger
  else if r > 9223372036854774784.0 then maxInteger
  else if r.isNaN then minInteger
  else
    match Decimal.Binary.ofFloat? r with
    | some b =>
      let t : Nat := if b.exponent ≥ 0 then b.mantissa * Nat.pow 2 b.exponent.toNat
        else b.mantissa / Nat.pow 2 (-b.exponent).toNat
      if b.negative then -(t : Int) else t
    | none => 0

/-- The double nearest to an integer. -/
def integerToReal (i : Int) : Float := Decimal.ofInt i

/-- Whether a double stands for the same number as an integer in the sense
the engine uses to store reals as integers: zero, or bit-for-bit the double
of the integer with the integer inside ±2^51. -/
def realSameAsInteger (r : Float) (i : Int) : Bool :=
  r == 0.0 ||
    ((integerToReal i).toBits == r.toBits && -2251799813685248 ≤ i && i < 2251799813685248)

/-- A double as an integer when it is one exactly and lies strictly inside
the 64-bit range. -/
def realAsExactInteger? (r : Float) : Option Int :=
  let i := realToInteger r
  if r == integerToReal i && minInteger < i && i < maxInteger then some i else none

end ReportExport.Sql
