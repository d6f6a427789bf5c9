import ReportExport.Filter.Comparator
import ReportExport.Json.Decode

/-!
# Filters

A filter is a column, a comparator and its operand. `Filter.make` is the only
way to build one and checks the operand's shape: no operand for the null
tests, a list of scalars for the membership tests, exactly two non-null
scalars for `between`, and a single scalar otherwise. The wire form is the
object `{column, operator, value}`, with `value` null when there is no
operand; reading that form goes through `Filter.ofParts`, which also accepts
a missing list as the empty one.
-/

namespace ReportExport

/-- Why an operand does not fit its comparator. -/
inductive OperandFault where
  | notScalar
  | notList
  | listItemNotScalar
  | notPair
  | notTwoBounds
  | boundNotScalar
  deriving Repr, DecidableEq

/-- The wording of an operand fault. -/
def OperandFault.reason : OperandFault → String
  | .notScalar => "expected a scalar"
  | .notList => "expected a list"
  | .listItemNotScalar => "list items must be scalars"
  | .notPair => "expected [min, max]"
  | .notTwoBounds => "expected exactly two bounds"
  | .boundNotScalar => "bounds must be non-null scalars"

/-- Why a filter could not be built. -/
inductive FilterError where
  | unknownOperator (token : String)
  | missingValue (column operator : String)
  | invalidOperand (column operator : String) (fault : OperandFault)
  | emptyColumn
  deriving Repr, DecidableEq

/-- The wording of a filter error. -/
def FilterError.message : FilterError → String
  | .unknownOperator t => "Unknown filter operator: " ++ t
  | .missingValue c o => "Filter on '" ++ c ++ "' with operator '" ++ o ++ "' requires a value"
  | .invalidOperand c o f => "Invalid operand for '" ++ c ++ "' (" ++ o ++ "): " ++ f.reason
  | .emptyColumn => "Filter column must not be empty"

/-- One condition on a column. -/
structure Filter where
  column : String
  comparator : Comparator
  value : Option Json
  deriving Inhabited

namespace Filter

/-- Two filters are equal when column, comparator and operand are. -/
def beq (a b : Filter) : Bool :=
  a.column == b.column && a.comparator == b.comparator && a.value == b.value

instance : BEq Filter := ⟨beq⟩

/-- Checks an operand against the shape its comparator needs. -/
def operandFault? (comparator : Comparator) (value : Json) : Option OperandFault :=
  match comparator with
  | .isIn | .notIn =>
    match value with
    | .arr items => if items.all Json.isScalar then none else some .listItemNotScalar
    | _ => some .notList
  | .between =>
    match value with
    | .arr items =>
      if items.length ≠ 2 then some .notTwoBounds
      else if items.all (fun v => v.isScalar && !v.isNull) then none
      else some .boundNotScalar
    | _ => some .notPair
  | _ => if value.isScalar then none else some .notScalar

/-- Builds a filter after checking the column and the operand's shape; the null
tests drop any operand they are given. -/
def make (column : String) (comparator : Comparator) (value : Option Json) :
    Except FilterError Filter :=
  if column.isEmpty then .error .emptyColumn
  else if !comparator.requiresValue then .ok ⟨column, comparator, none⟩
  else
    match value with
    | none | some .null => .error (.missingValue column comparator.token)
    | some v =>
      match operandFault? comparator v with
      | some f => .error (.invalidOperand column comparator.token f)
      | none => .ok ⟨column, comparator, some v⟩

/-- Reads a comparator token, or fails naming it. -/
def comparatorOf (token : String) : Except FilterError Comparator :=
  match Comparator.ofToken? token with
  | some c => .ok c
  | none => .error (.unknownOperator token)

/-- Builds a filter from its wire parts; a null operand of a membership test
is the empty list. -/
def ofParts (column operator : String) (value : Json) : Except FilterError Filter := do
  let comparator ← comparatorOf operator
  let value := match comparator, value with
    | .isIn, .null | .notIn, .null => Json.arr []
    | _, v => v
  make column comparator (some value)

/-- The list operand of a membership test. -/
def list? (f : Filter) : Option (List Json) :=
  if f.comparator.isList then
    match f.value with
    | some (.arr items) => some items
    | _ => none
  else none

/-- The bounds of a `between` test. -/
def range? (f : Filter) : Option (Json × Json) :=
  if f.comparator = .between then
    match f.value with
    | some (.arr [lo, hi]) => some (lo, hi)
    | _ => none
  else none

/-- The wire form `{column, operator, value}`. -/
def toJson (f : Filter) : Json :=
  .obj [("column", .str f.column), ("operator", .str f.comparator.token),
        ("value", f.value.getD .null)]

/-- Decodes the wire form: an object with `column`, `operator` and an optional
`value`, or the same three as an array. The three parts are read first and
checked as a filter after; in a text, a filter that fails that check is placed
where the sequence holding it stands once the filter is read. -/
def decode (j : Json) : Decoded Filter :=
  let build (column operator : String) (value : Json) : Decoded Filter :=
    match ofParts column operator value with
    | .ok f => .ok f
    | .error e => .error { message := e.message, inText := some { message := e.message, anchor := .seqEnd } }
  match j with
  | .obj ms => do
    let fs : Fields := ⟨ms⟩
    fs.check [.of "column" Json.asString, .of "operator" Json.asString, .of "value" Json.asValue]
    let column ← fs.required "column" Json.asString
    let operator ← fs.required "operator" Json.asString
    let value ← fs.withDefault "value" .null Json.asValue
    build column operator value
  | .arr items => do
    let it : Items := ⟨items, "struct FilterMap with 3 elements"⟩
    let column ← it.required 0 Json.asString
    let operator ← it.required 1 Json.asString
    let value ← it.withDefault 2 .null Json.asValue
    it.noneBeyond 3
    build column operator value
  | _ => j.invalidType "struct FilterMap"

end Filter

end ReportExport
