import ReportExport.Store.Error
import ReportExport.Sql.Value
import ReportExport.Sql.Numeral
import ReportExport.Json.Basic
import ReportExport.Json.Print
import ReportExport.Decimal.Binary

/-!
# Reading typed values out of result rows

A result row is read by column name, the first column of that name winning.
Each read names the host type it wants. A value of another storage class is
refused with a decode error naming both types; NULL is read as the type's
zero (an empty text, the integer 0) unless the read is optional, where it is
`none`. A 32-bit read keeps the low 32 bits of the stored integer, as a C
`int` conversion does.
-/

namespace ReportExport.Store

open Sql

/-- The SQL name of a value's storage class. -/
def SqlValue.className : SqlValue → String
  | .null => "NULL"
  | .integer _ => "INTEGER"
  | .real _ => "REAL"
  | .text _ => "TEXT"
  | .blob _ => "BLOB"

/-- A result row with the names of its columns. -/
structure ResultRow where
  columns : List String
  values : List SqlValue
  deriving Inhabited

/-- A host type a column is read as: its name and the SQL type it stands for. -/
structure HostType where
  name : String
  sqlName : String

/-- The 64-bit integer. -/
def HostType.int64 : HostType := ⟨"i64", "INTEGER"⟩

/-- The 32-bit integer. -/
def HostType.int32 : HostType := ⟨"i32", "INTEGER"⟩

/-- The boolean. -/
def HostType.bool : HostType := ⟨"bool", "BOOLEAN"⟩

/-- The owned string. -/
def HostType.string : HostType := ⟨"alloc::string::String", "TEXT"⟩

/-- The optional form of a host type. -/
def HostType.optional (t : HostType) : HostType :=
  ⟨"core::option::Option<" ++ t.name ++ ">", t.sqlName⟩

/-- A column of a row: by name, the first of that name, or by position. -/
inductive ColumnRef where
  | name (n : String)
  | index (i : Nat)

instance : Coe String ColumnRef := ⟨ColumnRef.name⟩

/-- How a decode error names the column: a name quoted, a position bare. -/
def ColumnRef.label : ColumnRef → String
  | .name n => "\"" ++ n ++ "\""
  | .index i => toString i

/-- The refusal of a value whose class the host type does not accept. -/
def mismatch (column : ColumnRef) (t : HostType) (v : SqlValue) : DriverError :=
  .columnDecode column.label
    ("mismatched types; Rust type " ++ "\x60" ++ t.name ++ "\x60 (as SQL type \x60" ++ t.sqlName ++
     "\x60) is not compatible with SQL type \x60" ++ SqlValue.className v ++ "\x60")

/-- Decodes the bytes of a text column as UTF-8, as the driver does for a
string; bytes that are not UTF-8 are refused. -/
def columnText (column : ColumnRef) (bs : Text.Bytes) : Except DriverError String :=
  match Text.decodeStrict bs with
  | .ok s => .ok s
  | .error f => .error (.columnDecode column.label f.message)

/-- The JSON form of a value a report reads, by its storage class: integers
and doubles as numbers (a non-finite double as null), text as itself, and a
blob as lowercase hexadecimal. -/
def jsonOfValue (column : ColumnRef) : SqlValue → Except DriverError Json
  | .null => .ok .null
  | .integer i => .ok (.int i)
  | .real f => .ok (Json.float f)
  | .text bs => (columnText column bs).map Json.str
  | .blob bs => .ok (.str (String.join (bs.map hexPair)))
where
  hexPair (b : UInt8) : String :=
    let d (n : Nat) : Char := if n < 10 then Char.ofNat (48 + n) else Char.ofNat (87 + n)
    String.ofList [d (b.toNat / 16), d (b.toNat % 16)]

/-- The value bound for a JSON argument: booleans as 1 or 0, integers that
fit as integers, other numbers as doubles, text as itself, and arrays and
objects as their JSON text. -/
def valueOfJson : Json → SqlValue
  | .null => .null
  | .bool b => .integer (if b then 1 else 0)
  | .num (.int i) => if fitsInteger i then .integer i else .real (Decimal.ofInt i)
  | .num (.float f) => .real f
  | .str s => .ofString s
  | j => .ofString j.compact

namespace ResultRow

/-- The value of a column. -/
def value? (r : ResultRow) : ColumnRef → Except DriverError SqlValue
  | .name n =>
    match r.columns.idxOf? n with
    | some i => match r.values[i]? with
      | some v => .ok v
      | none => .error (.columnNotFound n)
    | none => .error (.columnNotFound n)
  | .index i =>
    match r.values[i]? with
    | some v => .ok v
    | none => .error (.columnIndexOutOfBounds i r.values.length)

/-- Reads a column as text; NULL reads as the empty text. -/
def text (r : ResultRow) (name : ColumnRef) : Except DriverError String := do
  match ← r.value? name with
  | .null => return ""
  | .text s => columnText name s
  | v => throw (mismatch name .string v)

/-- Reads a column as optional text. -/
def textOpt (r : ResultRow) (name : ColumnRef) : Except DriverError (Option String) := do
  match ← r.value? name with
  | .null => return none
  | .text s => some <$> columnText name s
  | v => throw (mismatch name HostType.string.optional v)

/-- Reads a column as a 64-bit integer; NULL reads as 0. -/
def int (r : ResultRow) (name : ColumnRef) : Except DriverError Int := do
  match ← r.value? name with
  | .null => return 0
  | .integer i => return i
  | v => throw (mismatch name .int64 v)

/-- Reads a column as an optional 64-bit integer. -/
def intOpt (r : ResultRow) (name : ColumnRef) : Except DriverError (Option Int) := do
  match ← r.value? name with
  | .null => return none
  | .integer i => return some i
  | v => throw (mismatch name HostType.int64.optional v)

/-- The low 32 bits of an integer, as a signed value. -/
def low32 (i : Int) : Int :=
  let m := i % Int.pow 2 32
  if m < Int.pow 2 31 then m else m - Int.pow 2 32

/-- Reads a column as a 32-bit integer; NULL reads as 0. -/
def int32 (r : ResultRow) (name : ColumnRef) : Except DriverError Int := do
  match ← r.value? name with
  | .null => return 0
  | .integer i => return low32 i
  | v => throw (mismatch name .int32 v)

/-- Reads a column as a boolean: a nonzero integer is true. -/
def bool (r : ResultRow) (name : ColumnRef) : Except DriverError Bool := do
  match ← r.value? name with
  | .null => return false
  | .integer i => return low32 i != 0
  | v => throw (mismatch name .bool v)

end ResultRow

end ReportExport.Store
