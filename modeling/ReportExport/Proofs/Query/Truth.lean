import ReportExport.Query.Source

/-!
# The SQL reading of a predicate

A predicate is rendered as a WHERE fragment, and a source held in memory
tests it on rows itself. SQL reads the fragment in three-valued logic: a
comparison of a NULL cell, or of two values that do not compare, is UNKNOWN;
`x IN (v₁, …, vₙ)` is the OR of the `x = vᵢ` and `x NOT IN (…)` its
negation; `x BETWEEN lo AND hi` is `x >= lo AND x <= hi`; `LIKE` looks at the
cell's text and is UNKNOWN where there is none; the empty lists are rendered
as the constants `1 = 0` and `1 = 1`. A WHERE clause selects a row only when
it is TRUE.

`Predicate.truth` is that reading, and `Predicate.holds_iff_truth` compares
the row test with it. They agree on every predicate but one shape: a negated
membership whose cell equals no item but does not compare with one of them
(a NULL item, or a number against text that reads as none). SQL's NOT IN is
UNKNOWN there and skips the row; the row test, two-valued, keeps it.
-/

namespace ReportExport.Query

/-- SQL's three truth values. -/
inductive Truth where
  | true
  | false
  | unknown
  deriving Repr, DecidableEq

namespace Truth

/-- A two-valued test as a truth value. -/
def ofBool : Bool → Truth
  | Bool.true => .true
  | Bool.false => .false

/-- NOT leaves UNKNOWN as it is. -/
def not : Truth → Truth
  | .true => .false
  | .false => .true
  | .unknown => .unknown

/-- AND: FALSE wins over UNKNOWN. -/
def and : Truth → Truth → Truth
  | .false, _ => .false
  | _, .false => .false
  | .true, .true => .true
  | _, _ => .unknown

/-- OR: TRUE wins over UNKNOWN. -/
def or : Truth → Truth → Truth
  | .true, _ => .true
  | _, .true => .true
  | .false, .false => .false
  | _, _ => .unknown

/-- The OR of a list; FALSE when it is empty. -/
def any (ts : List Truth) : Truth := ts.foldr or .false

/-- The AND of a list; TRUE when it is empty. -/
def all (ts : List Truth) : Truth := ts.foldr and .true

@[simp] theorem ofBool_eq_true {b : Bool} : ofBool b = .true ↔ b = Bool.true := by
  cases b <;> decide

@[simp] theorem ofBool_eq_false {b : Bool} : ofBool b = .false ↔ b = Bool.false := by
  cases b <;> decide

@[simp] theorem not_eq_true {t : Truth} : t.not = .true ↔ t = .false := by
  cases t <;> decide

@[simp] theorem and_eq_true {a b : Truth} : a.and b = .true ↔ a = .true ∧ b = .true := by
  cases a <;> cases b <;> decide

theorem or_eq_true {a b : Truth} : a.or b = .true ↔ a = .true ∨ b = .true := by
  cases a <;> cases b <;> decide

theorem or_eq_false {a b : Truth} : a.or b = .false ↔ a = .false ∧ b = .false := by
  cases a <;> cases b <;> decide

theorem any_eq_true {ts : List Truth} : any ts = .true ↔ .true ∈ ts := by
  induction ts with
  | nil => simp [any]
  | cons t ts ih => rw [any, List.foldr_cons, ← any, or_eq_true, ih, List.mem_cons, eq_comm]

theorem any_eq_false {ts : List Truth} : any ts = .false ↔ ∀ t ∈ ts, t = .false := by
  induction ts with
  | nil => simp [any]
  | cons t ts ih =>
    rw [any, List.foldr_cons, ← any, or_eq_false, ih]
    simp

theorem all_eq_true {ts : List Truth} : all ts = .true ↔ ∀ t ∈ ts, t = .true := by
  induction ts with
  | nil => simp [all]
  | cons t ts ih =>
    rw [all, List.foldr_cons, ← all, and_eq_true, ih]
    simp

end Truth

theorem compareValues_of_isNull {v : Json} (x : Json) (null : v.isNull = true) : compareValues v x = none := by
  cases v <;> first | rfl | cases null

theorem textOf?_of_isNull {v : Json} (null : v.isNull = true) : textOf? v = none := by
  cases v <;> first | rfl | cases null

/-- The truth of comparing a cell with an operand: UNKNOWN when they do not compare. -/
def CompareOp.truth (op : CompareOp) (v x : Json) : Truth :=
  match compareValues v x with
  | some o => .ofBool (op.accepts o)
  | none => .unknown

namespace CompareOp

theorem truth_eq_true {op : CompareOp} {v x : Json} :
    op.truth v x = .true ↔ (compareValues v x).any op.accepts = true := by
  unfold truth
  cases compareValues v x <;> simp

theorem truth_eq_eq_true {v x : Json} : CompareOp.eq.truth v x = .true ↔ compareValues v x = some .eq := by
  unfold truth
  cases compareValues v x <;> simp [accepts]

theorem truth_gte_eq_true {v x : Json} :
    CompareOp.gte.truth v x = .true ↔ (compareValues v x).any (· != .lt) = true :=
  truth_eq_true

theorem truth_lte_eq_true {v x : Json} :
    CompareOp.lte.truth v x = .true ↔ (compareValues v x).any (· != .gt) = true :=
  truth_eq_true

theorem truth_eq_false {op : CompareOp} {v x : Json} :
    op.truth v x = .false ↔ ∃ o, compareValues v x = some o ∧ op.accepts o = false := by
  unfold truth
  cases compareValues v x <;> simp

end CompareOp

namespace Predicate

/-- The truth SQL gives the predicate's WHERE fragment on a row, an absent cell
being NULL. -/
def truth (p : Predicate) (row : Row) : Truth :=
  let v := cell row p.column
  match p with
  | .compare _ op x => op.truth v x
  | .like _ needle anchor negated =>
    match textOf? v with
    | some text =>
      let t := Truth.ofBool (found (lowerChars text) (lowerChars needle) anchor)
      if negated then t.not else t
    | none => .unknown
  | .member _ [] negated => .ofBool negated
  | .member _ (x :: xs) negated =>
    let t := Truth.any ((x :: xs).map (CompareOp.eq.truth v))
    if negated then t.not else t
  | .between _ lo hi => (CompareOp.gte.truth v lo).and (CompareOp.lte.truth v hi)
  | .null _ negated => .ofBool (v.isNull != negated)

/-- Whether the predicate is a negated membership whose cell is not NULL, equals
no item, and does not compare with some item: there SQL's NOT IN is UNKNOWN. -/
def unknownNotIn (p : Predicate) (row : Row) : Bool :=
  match p with
  | .member c xs true =>
    let v := cell row c
    !v.isNull && xs.all (fun x => compareValues v x != some .eq) && xs.any (fun x => compareValues v x == none)
  | _ => false

section Membership

variable {v : Json} {ys : List Json}

theorem any_truth_eq_true :
    Truth.any (ys.map (CompareOp.eq.truth v)) = .true ↔ ys.any (fun y => compareValues v y == some .eq) = true := by
  simp [Truth.any_eq_true, CompareOp.truth_eq_eq_true]

/-- The OR of the item tests is FALSE when every item compares with the cell and
none is equal to it. -/
theorem any_truth_eq_false :
    Truth.any (ys.map (CompareOp.eq.truth v)) = .false ↔
      ∀ y ∈ ys, compareValues v y ≠ some .eq ∧ compareValues v y ≠ none := by
  simp only [Truth.any_eq_false, List.mem_map, forall_exists_index, and_imp, forall_apply_eq_imp_iff₂,
    CompareOp.truth_eq_false, CompareOp.accepts]
  refine forall₂_congr fun y _ => ?_
  cases compareValues v y <;> simp

end Membership

/-- A negated membership over a non-empty list: the row test keeps the row
exactly when SQL does or when NOT IN is UNKNOWN with a non-NULL cell. -/
theorem holds_notIn_iff (c : String) (x : Json) (xs : List Json) (row : Row) :
    (Predicate.member c (x :: xs) true).holds row = true ↔
      (Predicate.member c (x :: xs) true).truth row = .true ∨
        (Predicate.member c (x :: xs) true).unknownNotIn row = true := by
  simp only [holds, truth, unknownNotIn, column, if_true, Truth.not_eq_true, any_truth_eq_false]
  by_cases null : (cell row c).isNull
  · -- a NULL cell compares with nothing, so the first item already makes NOT IN unknown
    have first := compareValues_of_isNull x null
    simp [null, first]
  · simp only [null, Bool.false_eq_true, if_false, Bool.not_false, Bool.true_and]
    by_cases unknown : (x :: xs).any (fun y => compareValues (cell row c) y == none) = true
    · simp_all
    · simp only [List.any_eq_true, beq_iff_eq, not_exists, not_and] at unknown
      simp_all [List.all_eq_true]

/-- The row test keeps a row exactly when SQL's reading of the WHERE fragment is
TRUE, or when the predicate is a negated membership that SQL finds UNKNOWN on it. -/
theorem holds_iff_truth (p : Predicate) (row : Row) :
    p.holds row = true ↔ p.truth row = .true ∨ p.unknownNotIn row = true := by
  cases p with
  | compare c op x =>
    by_cases null : (cell row c).isNull
    · simp [holds, truth, column, unknownNotIn, null, CompareOp.truth, compareValues_of_isNull]
    · simp [holds, truth, column, unknownNotIn, null, CompareOp.truth_eq_true]
  | like c needle anchor negated =>
    by_cases null : (cell row c).isNull
    · simp [holds, truth, column, unknownNotIn, null, textOf?_of_isNull]
    · simp only [holds, truth, column, unknownNotIn, null, Bool.false_eq_true, if_false, or_false]
      cases textOf? (cell row c) <;> cases negated <;> simp
  | member c xs negated =>
    cases xs with
    | nil => cases negated <;> simp [holds, truth, unknownNotIn]
    | cons x xs =>
      cases negated with
      | true => exact holds_notIn_iff c x xs row
      | false =>
        by_cases null : (cell row c).isNull
        · simp [holds, truth, column, unknownNotIn, null, Truth.any_eq_true, CompareOp.truth,
            compareValues_of_isNull]
        · have reading : (Predicate.member c (x :: xs) false).truth row =
              Truth.any ((x :: xs).map (CompareOp.eq.truth (cell row c))) := rfl
          rw [reading, any_truth_eq_true]
          simp [holds, column, unknownNotIn, null]
  | between c lo hi =>
    by_cases null : (cell row c).isNull
    · simp [holds, truth, column, unknownNotIn, null, CompareOp.truth, compareValues_of_isNull]
    · simp [holds, truth, column, unknownNotIn, null, CompareOp.truth_gte_eq_true, CompareOp.truth_lte_eq_true]
  | null c negated => simp [holds, truth, unknownNotIn]

end Predicate

/-- SQL's reading of a memory query's WHERE clause on a row: the AND of its
predicates' fragments. -/
def MemoryQuery.whereTruth (q : MemoryQuery) (row : Row) : Truth :=
  Truth.all (q.predicates.map (·.truth row))

/-- Where no negated membership is UNKNOWN on its rows, a memory query yields
exactly the rows its WHERE clause keeps, in their order. -/
theorem MemoryQuery.matching_eq_filter_whereTruth (q : MemoryQuery)
    (known : ∀ r ∈ q.rows, ∀ p ∈ q.predicates, p.unknownNotIn r = false) :
    q.matching = q.rows.filter (fun r => q.whereTruth r == .true) := by
  unfold matching
  refine List.filter_congr fun r mem => ?_
  have each : ∀ p ∈ q.predicates, p.holds r = true ↔ p.truth r = .true := fun p inside => by
    rw [Predicate.holds_iff_truth, known r mem p inside, Bool.false_eq_true, or_false]
  rw [Bool.eq_iff_iff, List.all_eq_true, beq_iff_eq, whereTruth, Truth.all_eq_true]
  simp only [List.mem_map, forall_exists_index, and_imp, forall_apply_eq_imp_iff₂]
  exact forall₂_congr each

/-- A source held in memory follows SQL's reading of the fragments it renders
wherever no negated membership is UNKNOWN on its rows: each predicate keeps
exactly the rows whose fragment is TRUE, and fetching everything yields
exactly the rows the WHERE clause selects, in their order. -/
theorem memory_source_follows_sql (q : MemoryQuery) (s : Store.RecordStore)
    (known : ∀ r ∈ q.rows, ∀ p ∈ q.predicates, p.unknownNotIn r = false) :
    (∀ r ∈ q.rows, ∀ p ∈ q.predicates, p.holds r = true ↔ p.truth r = .true) ∧
      (QuerySource.memory q none).fetchAll s = (s, .ok (q.rows.filter fun r => q.whereTruth r == .true)) := by
  refine ⟨fun r mem p inside => ?_, ?_⟩
  · rw [Predicate.holds_iff_truth, known r mem p inside, Bool.false_eq_true, or_false]
  · rw [QuerySource.fetchAll, ← MemoryQuery.matching_eq_filter_whereTruth q known]
    rfl

/-- Fetching everything from a source with a negated membership and a range,
whose rows all compare with the items. -/
theorem memory_source_follows_sql_on_codes :
    let q : MemoryQuery := ⟨"codes", [[("code", .str "b")], [("code", .str "q")], []], none,
      [.member "code" [.str "a", .str "z"] true, .between "code" (.str "a") (.str "m")]⟩
    (∀ r ∈ q.rows, ∀ p ∈ q.predicates, p.unknownNotIn r = false) ∧
      (QuerySource.memory q none).fetchAll {} = ({}, .ok [[("code", .str "b")]]) := by
  intro q
  have known : ∀ r ∈ q.rows, ∀ p ∈ q.predicates, p.unknownNotIn r = false := by decide
  refine ⟨known, ?_⟩
  rw [(memory_source_follows_sql q {} known).2]
  rfl

/-- A `not_in` filter with a null item keeps a row whose cell equals no item,
where SQL's NOT IN is UNKNOWN and skips it. -/
theorem notIn_null_item_keeps_row :
    ∃ f p, Filter.make "x" .notIn (some (.arr [.str "a", .null])) = .ok f ∧ Predicate.ofFilter f = .ok p ∧
      p.holds [("x", .str "b")] = true ∧ p.truth [("x", .str "b")] = .unknown := by
  refine ⟨_, _, rfl, rfl, ?_, ?_⟩ <;> decide

end ReportExport.Query
