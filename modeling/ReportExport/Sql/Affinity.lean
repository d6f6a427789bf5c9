import ReportExport.Sql.Value

/-!
# Affinity and conversions

A column's declared type gives it an affinity, the class it prefers its
values in. Affinities are ordered: no affinity, blob, text, numeric, integer,
real; the last three are the numeric ones.

* Numeric affinities turn text that is wholly a number into that number, an
  integer when the number is integral and fits, and turn integral doubles
  into integers.
* Text affinity writes numbers as their text.
* Blob affinity, and the absence of one, leave values alone.

The same module holds the readings of a value as an integer, a double, a
truth value and a number for arithmetic, and the conversions of CAST. They
all rest on the two readings of text in `Sql.Numeral`.
-/

namespace ReportExport.Sql

open Text

/-- The affinities, in the order the engine compares them. -/
inductive Affinity where
  | none
  | blob
  | text
  | numeric
  | integer
  | real
  deriving Repr, DecidableEq, Inhabited

namespace Affinity

/-- The rank of an affinity in the engine's order. -/
def rank : Affinity → Nat
  | .none => 0
  | .blob => 1
  | .text => 2
  | .numeric => 3
  | .integer => 4
  | .real => 5

/-- Whether the affinity is numeric, integer or real. -/
def isNumeric (a : Affinity) : Bool := a.rank ≥ 3

/-- Whether the affinity is a real one, of a column (not none). -/
def isColumn (a : Affinity) : Bool := a.rank ≥ 1

end Affinity

/-- The ASCII lower case of a byte. -/
def lowerByte (b : UInt8) : UInt8 := if 0x41 ≤ b && b ≤ 0x5a then b + 32 else b

/-- The ASCII upper case of a byte. -/
def upperByte (b : UInt8) : UInt8 := if 0x61 ≤ b && b ≤ 0x7a then b - 32 else b

/-- The word of the last four bytes read, lower-cased, as the type scan keeps it. -/
def shiftIn (h : Nat) (b : UInt8) : Nat := (h * 256 + (lowerByte b).toNat) % 4294967296

/-- The four-letter word a byte string spells, as a number. -/
def wordOf (s : String) : Nat := (bytesOf s).foldl shiftIn 0

/-- Scans a declared type for the words that decide its affinity. -/
def scanType (aff : Affinity) (h : Nat) : Bytes → Affinity
  | [] => aff
  | b :: rest =>
    let h := shiftIn h b
    if h % 16777216 == wordOf "int" then .integer
    else
      let aff :=
        if h == wordOf "char" || h == wordOf "clob" || h == wordOf "text" then .text
        else if h == wordOf "blob" && (aff == .numeric || aff == .real) then .blob
        else if (h == wordOf "real" || h == wordOf "floa" || h == wordOf "doub") &&
            aff == .numeric then .real
        else aff
      scanType aff h rest

/-- The affinity of a declared type: `INT` anywhere gives integer (at the
first place it is seen); otherwise the last of `CHAR`, `CLOB` or `TEXT`
gives text; `BLOB` gives blob and `REAL`, `FLOA` or `DOUB` give real unless
text was seen before them; anything else is numeric. -/
def affinityOfType (declared : String) : Affinity := scanType .numeric 0 (bytesOf declared)

/-! ## Reading values -/

namespace SqlValue

/-- The value as a 64-bit integer: doubles truncate toward zero and clamp,
text and blobs read their leading integer, NULL is zero. -/
def intValue : SqlValue → Int
  | .null => 0
  | .integer i => i
  | .real r => realToInteger r
  | .text b | .blob b => (readInteger b).1

/-- The value as a double: text and blobs read their leading number. -/
def realValue : SqlValue → Float
  | .null => 0.0
  | .integer i => integerToReal i
  | .real r => r
  | .text b | .blob b => (readReal b).1

/-- The truth of a value, `ifNull` for NULL: integers are true when not
zero, anything else when its double is not zero. -/
def truthOr (ifNull : Bool) : SqlValue → Bool
  | .null => ifNull
  | .integer i => i != 0
  | v => v.realValue != 0.0

/-- The truth of a value in three-valued logic. -/
def truth? : SqlValue → Option Bool
  | .null => none
  | v => some (v.truthOr false)

/-- The number a value stands for in arithmetic: integers and doubles as they
are; text and blobs read as an integer when what they hold is an integer
that fits (possibly followed by other text), else as a double. -/
def numeric : SqlValue → SqlValue
  | .null => .null
  | .integer i => .integer i
  | .real r => .real r
  | .text b | .blob b =>
    let (r, shape) := readReal b
    let (i, ishape) := readInteger b
    match shape with
    | .none => if ishape.fits then .integer i else .real r
    | .prefixOnly => .real r
    | .integer => if ishape == .exact then .integer i else .real r
    | .decimal => .real r

end SqlValue

/-- A truth value as a stored value. -/
def ofTruth : Option Bool → SqlValue
  | none => .null
  | some b => .integer (if b then 1 else 0)

/-! ## Affinity applied -/

/-- Text that is wholly a number, as that number: an integer when the text
is an integer that fits or a double equal to one; else a double, turned into
an integer when `tryInteger` asks and it is integral. Other text stays. -/
def numericOfText (tryInteger : Bool) (b : Bytes) : SqlValue :=
  let (r, shape) := readReal b
  match shape with
  | .none | .prefixOnly => .text b
  | .integer | .decimal =>
    let i := realToInteger r
    if shape == .integer && realSameAsInteger r i then .integer i
    else if shape == .integer && (readInteger b).2 == .exact then .integer (readInteger b).1
    else if tryInteger then
      match realAsExactInteger? r with
      | some i => .integer i
      | none => .real r
    else .real r

/-- Converts a value as a column or comparison of the affinity does. -/
def SqlValue.withAffinity (a : Affinity) (v : SqlValue) : SqlValue :=
  if a.isNumeric then
    match v with
    | .text b => numericOfText true b
    | .real r =>
      match realAsExactInteger? r with
      | some i => .integer i
      | none => v
    | _ => v
  else if a == .text then
    match v with
    | .integer _ | .real _ => .text v.textBytes
    | _ => v
  else v

/-- The value a column of the affinity stores: the affinity applied, and an
integer in a real column kept as its double, as it is read back. -/
def SqlValue.stored (a : Affinity) (v : SqlValue) : SqlValue :=
  match a, v.withAffinity a with
  | .real, .integer i => .real (integerToReal i)
  | _, w => w

/-- Converts text in a comparison operand to a number when it is one, as a
numeric comparison affinity does. -/
def SqlValue.numericForComparison : SqlValue → SqlValue
  | .text b => numericOfText false b
  | v => v

/-! ## CAST -/

/-- CAST to numeric: text and blobs become an integer when they read as an
integer that fits (possibly followed by other text) or as a double equal to
a small integer, else a double; numbers stay. -/
def castNumeric : SqlValue → SqlValue
  | .text b | .blob b =>
    let (r, shape) := readReal b
    let (i, ishape) := readInteger b
    let intShape := shape == .none || shape == .integer
    if intShape && (ishape.fits) then .integer i
    else
      let j := realToInteger r
      if realSameAsInteger r j then .integer j else .real r
  | v => v

/-- CAST of a value to an affinity. -/
def SqlValue.cast (a : Affinity) (v : SqlValue) : SqlValue :=
  match v with
  | .null => .null
  | _ =>
    match a with
    | .none | .blob =>
      match v with
      | .blob _ => v
      | _ => .blob v.textBytes
    | .numeric => castNumeric v
    | .integer => .integer v.intValue
    | .real => .real v.realValue
    | .text => .text v.textBytes

end ReportExport.Sql
