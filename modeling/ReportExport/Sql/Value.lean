import ReportExport.Sql.Digits
import ReportExport.Sql.Numeral

/-!
# SQL values

A value has one of five storage classes: NULL, a 64-bit integer, a double,
text or a blob. Text is kept as its bytes: the engine stores whatever bytes a
text is given, including NUL bytes and sequences that are not UTF-8, and only
the reader of a result decides whether they make a string.

Every value has a text form, the one functions and concatenation read: an
integer in decimal, a double in fifteen significant digits (`realText`), text
and blobs as their bytes.
-/

namespace ReportExport.Sql

open Text

/-- A stored value. -/
inductive SqlValue where
  | null
  | integer (value : Int)
  | real (value : Float)
  | text (bytes : Bytes)
  | blob (bytes : Bytes)
  deriving Inhabited

namespace SqlValue

/-- Text given as a string. -/
def ofString (s : String) : SqlValue := .text (bytesOf s)

/-- Equal classes and equal contents; doubles compare by their bits. -/
def same : SqlValue → SqlValue → Bool
  | .null, .null => true
  | .integer a, .integer b => a == b
  | .real a, .real b => a.toBits == b.toBits
  | .text a, .text b => a == b
  | .blob a, .blob b => a == b
  | _, _ => false

instance : BEq SqlValue := ⟨same⟩

/-- Whether the value is NULL. -/
def isNull : SqlValue → Bool
  | .null => true
  | _ => false

/-- Whether the value is a number. -/
def isNumber : SqlValue → Bool
  | .integer _ | .real _ => true
  | _ => false

/-- The name `typeof` gives the class. -/
def typeName (v : SqlValue) : String :=
  match v with
  | .null => "null"
  | .integer _ => "integer"
  | .real _ => "real"
  | .text _ => "text"
  | .blob _ => "blob"

/-- The text form of a value: none for NULL, the decimal digits of an
integer, the fifteen-digit text of a double, the bytes of text and blobs. -/
def textBytes? : SqlValue → Option Bytes
  | .null => none
  | .integer i => some (bytesOf (toString i))
  | .real r => some (bytesOf (realText r))
  | .text b => some b
  | .blob b => some b

/-- The text form of a value, empty for NULL. -/
def textBytes (v : SqlValue) : Bytes := v.textBytes?.getD []

end SqlValue

/-- Bytes up to the first NUL byte: the part of a text that functions reading
a terminated string see. -/
def untilNul (bs : Bytes) : Bytes := bs.takeWhile (· != 0)

/-- A string from bytes, reading malformed UTF-8 leniently: a lead byte takes
the continuation bytes after it, and what is not a character becomes U+FFFD. -/
def lenientString (bs : Bytes) : String :=
  String.ofList ((codePoints bs).map Char.ofNat)

end ReportExport.Sql
