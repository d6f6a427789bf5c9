import ReportExport.Query.Compile
import ReportExport.Proofs.Filter.Wire

/-!
# Every filter compiles

A filter becomes a predicate by its comparator: the six comparisons keep the
operand, the four text tests look for the operand's text, the membership
tests take the operand's list, `between` its two bounds, and the null tests
take nothing. The compiler checks each operand again on its way (a scalar, a
text, a list, a pair), and fails when one is missing.

`Filter.tablePredicate` writes the comparator table down with total
accessors, and `compile_follows_table` states that on every filter `make`
builds the compiler gives exactly that predicate: none of its operand checks
can fail there, because `make` has already checked the same shapes.
-/

namespace ReportExport

open Query

namespace Filter

/-- The predicate the comparator table gives a filter: the operand for a
comparison, its text for a text test, its list for membership, its bounds for
`between`, nothing for the null tests. -/
def tablePredicate (f : Filter) : Predicate :=
  let operand := f.value.getD .null
  let needle := (textOf? operand).getD ""
  let (lo, hi) := f.range?.getD (.null, .null)
  match f.comparator with
  | .equals => .compare f.column .eq operand
  | .notEquals => .compare f.column .notEq operand
  | .gt => .compare f.column .gt operand
  | .gte => .compare f.column .gte operand
  | .lt => .compare f.column .lt operand
  | .lte => .compare f.column .lte operand
  | .contains => .like f.column needle .contains false
  | .notContains => .like f.column needle .contains true
  | .startsWith => .like f.column needle .startsWith false
  | .endsWith => .like f.column needle .endsWith false
  | .isIn => .member f.column (f.list?.getD []) false
  | .notIn => .member f.column (f.list?.getD []) true
  | .between => .between f.column lo hi
  | .isNull => .null f.column false
  | .isNotNull => .null f.column true

@[simp] theorem column_tablePredicate (f : Filter) : f.tablePredicate.column = f.column := by
  unfold tablePredicate
  cases f.comparator <;> rfl

/-! ## The operand checks pass on shaped operands -/

variable {f : Filter} {x : Json}

theorem scalarOf_eq (operand : f.value = some x) (scalar : x.isScalar = true)
    (present : x.isNull = false) : scalarOf f = .ok x := by
  simp [scalarOf, operand, scalar, present]

theorem needleOf_eq (operand : f.value = some x) (scalar : x.isScalar = true)
    (present : x.isNull = false) : needleOf f = .ok ((textOf? x).getD "") := by
  cases x <;> simp_all [Json.isScalar, Json.isNull, needleOf, textOf?]

/-- On a shaped filter the compiler follows the comparator table. -/
theorem ofFilter_of_shaped (shaped : f.Shaped) : Predicate.ofFilter f = .ok f.tablePredicate := by
  obtain ⟨column, c, value⟩ := f
  have takes : c.Takes value := shaped.takes
  cases c
  -- a list or a pair is read off the operand as it stands
  case isIn | notIn =>
    obtain ⟨items, rfl, -⟩ := takes
    rfl
  case between =>
    obtain ⟨lo, hi, rfl, -⟩ := takes
    rfl
  case isNull | isNotNull => rfl
  case contains | notContains | startsWith | endsWith =>
    obtain ⟨x, rfl, scalar, present⟩ := takes
    simp only [Predicate.ofFilter, tablePredicate, needleOf_eq (f := ⟨column, _, some x⟩) rfl scalar present,
      Option.getD_some, Except.map]
  all_goals
    obtain ⟨x, rfl, scalar, present⟩ := takes
    simp only [Predicate.ofFilter, tablePredicate, scalarOf_eq (f := ⟨column, _, some x⟩) rfl scalar present,
      Option.getD_some, Except.map]

end Filter

/-- Compiling a filter that `make` built never fails: it gives the predicate
of the comparator table, on the filter's own column. -/
theorem compile_follows_table {column : String} {comparator : Comparator} {operand : Option Json}
    {f : Filter} (made : Filter.make column comparator operand = .ok f) :
    Predicate.ofFilter f = .ok f.tablePredicate ∧ f.tablePredicate.column = f.column :=
  ⟨Filter.ofFilter_of_shaped (Filter.make_shaped made), Filter.column_tablePredicate f⟩

/-- A `between` filter built from two numbers compiles to the range between them. -/
theorem compile_follows_table_between :
    Filter.make "age" .between (some (.arr [.nat 18, .nat 65])) =
        .ok ⟨"age", .between, some (.arr [.nat 18, .nat 65])⟩ ∧
      Predicate.ofFilter ⟨"age", .between, some (.arr [.nat 18, .nat 65])⟩ =
        .ok (Filter.tablePredicate ⟨"age", .between, some (.arr [.nat 18, .nat 65])⟩) ∧
      (Filter.tablePredicate ⟨"age", .between, some (.arr [.nat 18, .nat 65])⟩).column = "age" :=
  have made : Filter.make "age" .between (some (.arr [.nat 18, .nat 65])) =
      .ok ⟨"age", .between, some (.arr [.nat 18, .nat 65])⟩ := by rfl
  ⟨made, compile_follows_table made⟩

end ReportExport
