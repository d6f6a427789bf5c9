import ReportExport.Query.Predicate
import ReportExport.Filter.Basic

/-!
# From filters to predicates

Each comparator has one predicate: the six comparisons, three anchored
patterns (`not_contains` is the negated `contains`), membership and its
negation, `between`, and the two null tests. A filter built by `Filter.make`
always has the operand its predicate needs; the operand checks here only
guard filters assembled by other means.
-/

namespace ReportExport.Query

/-- The two kinds of query source. -/
inductive Backend where
  | memory
  | sqlite
  deriving Repr, DecidableEq

/-- The source's name in messages. -/
def Backend.name : Backend → String
  | .memory => "memory"
  | .sqlite => "sqlite"

/-- Why a filter could not be applied to a source. -/
inductive CompileError where
  | invalidOperand (column comparator reason : String)
  | unknownColumn (backend : Backend) (column : String)
  deriving Repr

/-- The wording of a compile error. -/
def CompileError.message : CompileError → String
  | .invalidOperand c k r => "Invalid operand for '" ++ c ++ "' (" ++ k ++ "): " ++ r
  | .unknownColumn b c => "Cannot filter by column '" ++ c ++ "' on " ++ b.name

/-- The operand error for a filter. -/
def invalidFor {α : Type} (f : Filter) (reason : String) : Except CompileError α :=
  .error (.invalidOperand f.column f.comparator.token reason)

/-- The single scalar operand of a comparison. -/
def scalarOf (f : Filter) : Except CompileError Json :=
  match f.value with
  | some v => if v.isScalar && !v.isNull then .ok v else invalidFor f "expected a scalar"
  | none => invalidFor f "expected a scalar"

/-- The needle of a pattern test: a string, or a number or boolean as text. -/
def needleOf (f : Filter) : Except CompileError String :=
  match f.value with
  | some (.str s) => .ok s
  | some (.num n) => .ok n.text
  | some (.bool b) => .ok (if b then "1" else "0")
  | _ => invalidFor f "expected text to match"

/-- The predicate of a filter. -/
def Predicate.ofFilter (f : Filter) : Except CompileError Predicate :=
  let c := f.column
  let compare (op : CompareOp) := (scalarOf f).map (Predicate.compare c op)
  let like (a : LikeAnchor) (negated : Bool) := (needleOf f).map (fun n => Predicate.like c n a negated)
  let member (negated : Bool) :=
    match f.list? with
    | some vs => .ok (Predicate.member c vs negated)
    | none => invalidFor f "expected a list"
  match f.comparator with
  | .equals => compare .eq
  | .notEquals => compare .notEq
  | .gt => compare .gt
  | .gte => compare .gte
  | .lt => compare .lt
  | .lte => compare .lte
  | .contains => like .contains false
  | .notContains => like .contains true
  | .startsWith => like .startsWith false
  | .endsWith => like .endsWith false
  | .isIn => member false
  | .notIn => member true
  | .between =>
    match f.range? with
    | some (lo, hi) => .ok (Predicate.between c lo hi)
    | none => invalidFor f "expected [min, max]"
  | .isNull => .ok (Predicate.null c false)
  | .isNotNull => .ok (Predicate.null c true)

end ReportExport.Query
