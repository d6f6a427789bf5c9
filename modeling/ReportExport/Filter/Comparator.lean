/-!
# Comparators

The fifteen ways a filter compares a column with its operand. Each has one
canonical token; seven symbols and `does_not_contain` are accepted as aliases
when reading. Tokens are matched exactly, case included.
-/

namespace ReportExport

/-- How a filter compares a column with its operand. -/
inductive Comparator where
  | equals | notEquals | gt | gte | lt | lte
  | contains | notContains | startsWith | endsWith
  | isIn | notIn | between | isNull | isNotNull
  deriving Repr, DecidableEq, Inhabited

namespace Comparator

/-- Every comparator, in their canonical order. -/
def all : List Comparator :=
  [.equals, .notEquals, .gt, .gte, .lt, .lte, .contains, .notContains, .startsWith,
   .endsWith, .isIn, .notIn, .between, .isNull, .isNotNull]

/-- The canonical token. -/
def token : Comparator → String
  | .equals => "equals"
  | .notEquals => "not_equals"
  | .gt => "gt"
  | .gte => "gte"
  | .lt => "lt"
  | .lte => "lte"
  | .contains => "contains"
  | .notContains => "not_contains"
  | .startsWith => "starts_with"
  | .endsWith => "ends_with"
  | .isIn => "in"
  | .notIn => "not_in"
  | .between => "between"
  | .isNull => "is_null"
  | .isNotNull => "is_not_null"

/-- The name of the comparator in diagnostic output. -/
def variantName : Comparator → String
  | .equals => "Equals"
  | .notEquals => "NotEquals"
  | .gt => "Gt"
  | .gte => "Gte"
  | .lt => "Lt"
  | .lte => "Lte"
  | .contains => "Contains"
  | .notContains => "NotContains"
  | .startsWith => "StartsWith"
  | .endsWith => "EndsWith"
  | .isIn => "In"
  | .notIn => "NotIn"
  | .between => "Between"
  | .isNull => "IsNull"
  | .isNotNull => "IsNotNull"

/-- Reads a token: a canonical token or one of the aliases. -/
def ofToken? (s : String) : Option Comparator :=
  match s with
  | "equals" | "=" => some .equals
  | "not_equals" | "!=" => some .notEquals
  | "gt" | ">" => some .gt
  | "gte" | ">=" => some .gte
  | "lt" | "<" => some .lt
  | "lte" | "<=" => some .lte
  | "contains" => some .contains
  | "not_contains" | "does_not_contain" => some .notContains
  | "starts_with" => some .startsWith
  | "ends_with" => some .endsWith
  | "in" => some .isIn
  | "not_in" => some .notIn
  | "between" => some .between
  | "is_null" => some .isNull
  | "is_not_null" => some .isNotNull
  | _ => none

/-- Only the two null tests take no operand. -/
def requiresValue : Comparator → Bool
  | .isNull | .isNotNull => false
  | _ => true

/-- The membership tests take a list. -/
def isList : Comparator → Bool
  | .isIn | .notIn => true
  | _ => false

/-- The text tests match a pattern. -/
def isPattern : Comparator → Bool
  | .contains | .notContains | .startsWith | .endsWith => true
  | _ => false

/-- Every canonical token reads back as its comparator. -/
theorem ofToken?_token (c : Comparator) : ofToken? c.token = some c := by
  cases c <;> rfl

end Comparator

end ReportExport
