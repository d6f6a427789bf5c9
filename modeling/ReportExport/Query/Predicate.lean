import ReportExport.Query.Compare
import ReportExport.Sql.Literal

/-!
# Predicates

A predicate is what a filter becomes for a query source. It has two readings:
a WHERE fragment with `?` placeholders and the bindings that fill them, and a
test on an in-memory row.

On a row, an absent cell is null; the null tests look at nullity alone, the
empty membership test is false (its negation true) whatever the cell, and
every other predicate is false on a null cell. Pattern tests compare ASCII
lowercase text, the needle taken literally.
-/

namespace ReportExport

namespace Query

/-- The six comparison operators. -/
inductive CompareOp where
  | eq | notEq | gt | gte | lt | lte
  deriving Repr, DecidableEq

/-- The operator's SQL spelling. -/
def CompareOp.sql : CompareOp → String
  | .eq => "="
  | .notEq => "!="
  | .gt => ">"
  | .gte => ">="
  | .lt => "<"
  | .lte => "<="

/-- Whether an ordering of cell against operand satisfies the operator. -/
def CompareOp.accepts : CompareOp → Ordering → Bool
  | .eq, o => o == .eq
  | .notEq, o => o != .eq
  | .gt, o => o == .gt
  | .gte, o => o != .lt
  | .lt, o => o == .lt
  | .lte, o => o != .gt

/-- Where a pattern's needle must occur. -/
inductive LikeAnchor where
  | contains | startsWith | endsWith
  deriving Repr, DecidableEq

/-- The anchor's name in predicate views. -/
def LikeAnchor.name : LikeAnchor → String
  | .contains => "Contains"
  | .startsWith => "StartsWith"
  | .endsWith => "EndsWith"

/-- A condition on one column. -/
inductive Predicate where
  | compare (column : String) (op : CompareOp) (value : Json)
  | like (column : String) (needle : String) (anchor : LikeAnchor) (negated : Bool)
  | member (column : String) (values : List Json) (negated : Bool)
  | between (column : String) (lo hi : Json)
  | null (column : String) (negated : Bool)
  deriving Inhabited

namespace Predicate

/-- The column a predicate tests. -/
def column : Predicate → String
  | .compare c _ _ => c
  | .like c _ _ _ => c
  | .member c _ _ => c
  | .between c _ _ => c
  | .null c _ => c

/-- The LIKE pattern for a needle at an anchor. -/
def likePattern (needle : String) : LikeAnchor → String
  | .contains => "%" ++ Sql.escapeLike needle ++ "%"
  | .startsWith => Sql.escapeLike needle ++ "%"
  | .endsWith => "%" ++ Sql.escapeLike needle

/-- The values the placeholders of the WHERE fragment stand for, in order. -/
def bindings : Predicate → List Json
  | .compare _ _ v => [v]
  | .like _ n a _ => [.str (likePattern n a)]
  | .member _ vs _ => vs
  | .between _ lo hi => [lo, hi]
  | .null _ _ => []

/-- The WHERE fragment, with one `?` per binding. -/
def sql : Predicate → String
  | .compare c op _ => Sql.quoteIdentifier c ++ " " ++ op.sql ++ " ?"
  | .like c _ _ negated =>
    Sql.quoteIdentifier c ++ (if negated then " NOT LIKE" else " LIKE") ++ " ? ESCAPE '\\'"
  | .member c vs negated =>
    if vs.isEmpty then (if negated then "1 = 1" else "1 = 0")
    else
      Sql.quoteIdentifier c ++ (if negated then " NOT IN (" else " IN (") ++
        ", ".intercalate (vs.map (fun _ => "?")) ++ ")"
  | .between c _ _ => Sql.quoteIdentifier c ++ " BETWEEN ? AND ?"
  | .null c negated => Sql.quoteIdentifier c ++ (if negated then " IS NOT NULL" else " IS NULL")

/-- Whether `needle` occurs in `hay` at the anchor. -/
def found (hay needle : List Char) : LikeAnchor → Bool
  | .contains => (List.range (hay.length + 1)).any (fun i => needle.isPrefixOf (hay.drop i))
  | .startsWith => needle.isPrefixOf hay
  | .endsWith => needle.reverse.isPrefixOf hay.reverse

/-- ASCII lowercase of a text, as characters. -/
def lowerChars (s : String) : List Char := s.toList.map Char.toLower

/-- The value of a column in a row; absent is null. -/
def cell (row : Row) (column : String) : Json := (Json.lookup column row).getD .null

/-- Whether a row satisfies the predicate. -/
def holds (p : Predicate) (row : Row) : Bool :=
  let v := cell row p.column
  match p with
  | .null _ negated => v.isNull != negated
  | .member _ [] negated => negated
  | _ =>
    if v.isNull then false else
    match p with
    | .compare _ op value => (compareValues v value).any op.accepts
    | .like _ needle anchor negated =>
      match textOf? v with
      | some text => found (lowerChars text) (lowerChars needle) anchor != negated
      | none => false
    | .member _ values negated =>
      values.any (fun x => compareValues v x == some .eq) != negated
    | .between _ lo hi =>
      (compareValues v lo).any (· != .lt) && (compareValues v hi).any (· != .gt)
    | .null _ negated => v.isNull != negated

end Predicate

end Query

end ReportExport
