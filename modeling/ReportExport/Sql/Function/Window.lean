import ReportExport.Sql.Function.Aggregate

/-!
# Window functions

A window function is computed over the rows of a query once their values
are known. The rows are split into partitions and sorted by the window's
order; rows whose order values are equal are peers. Each row sees a frame of
its partition: counted in rows, in groups of peers, or by a range of the
order value, from a start bound to an end bound, with the current row, its
peers or its group optionally left out.

Ranking functions (`row_number`, `rank`, `dense_rank`, `percent_rank`,
`cume_dist`, `ntile`) and `lag` and `lead` look at the partition; the value
functions and aggregates look at the frame.
-/

namespace ReportExport.Sql

/-- A frame bound with its offset evaluated. -/
inductive BoundValue where
  | unboundedPreceding
  | preceding (v : SqlValue)
  | currentRow
  | following (v : SqlValue)
  | unboundedFollowing
  deriving Inhabited

/-- What a row gives a window function: its partition and order values, its
arguments, and whether it passes the FILTER. -/
structure WindowInput where
  partition : List SqlValue
  order : List SqlValue
  args : List SqlValue
  isJson : List Bool := []
  passes : Bool := true
  deriving Inhabited

/-- A window call's shape: the function, the collations of its partition
terms and the direction, NULL placement and collation of its order terms,
the collation of its arguments, and its frame. -/
structure WindowShape where
  name : String
  partitionCollations : List Collation
  orderSpecs : List (Bool × Bool × Collation)
  collation : Collation := .binary
  unit : FrameUnit
  start : BoundValue
  stop : BoundValue
  exclusion : FrameExclusion

/-- Compares two values as a sort key: NULLs first or last, descending or not. -/
def compareKey (desc nullsFirst : Bool) (coll : Collation) (a b : SqlValue) : Ordering :=
  match a, b with
  | .null, .null => .eq
  | .null, _ => if nullsFirst then .lt else .gt
  | _, .null => if nullsFirst then .gt else .lt
  | _, _ =>
    let o := a.compareWith coll b
    if desc then o.swap else o

/-- Compares lists of sort keys by their specifications. -/
def compareKeys : List (Bool × Bool × Collation) → List SqlValue → List SqlValue → Ordering
  | (d, n, c) :: specs, a :: as, b :: bs =>
    match compareKey d n c a b with
    | .eq => compareKeys specs as bs
    | o => o
  | _, _, _ => .eq

/-- Sorts items by their keys, keeping the order of items with equal keys. -/
def stableSortBy {α : Type} (specs : List (Bool × Bool × Collation)) (items : List (List SqlValue × α)) :
    List (List SqlValue × α) :=
  items.mergeSort (fun a b => compareKeys specs a.1 b.1 != .gt)

/-- Splits a sorted list into runs of items equal by a test. -/
def runsBy {α : Type} (same : α → α → Bool) : List α → List (List α)
  | [] => []
  | x :: xs =>
    match runsBy same xs with
    | (y :: ys) :: rest => if same x y then (x :: y :: ys) :: rest else [x] :: (y :: ys) :: rest
    | rest => [x] :: rest

/-- An offset of a ROWS or GROUPS bound: a non-negative integer. -/
def integerOffset (start : Bool) (v : SqlValue) : Except String Nat :=
  let msg := if start then "frame starting offset must be a non-negative integer"
    else "frame ending offset must be a non-negative integer"
  match v.withAffinity .numeric with
  | .integer i => if i < 0 then .error msg else .ok i.toNat
  | _ => .error msg

/-- An offset of a RANGE bound: a non-negative number. -/
def numberOffset (start : Bool) (v : SqlValue) : Except String SqlValue :=
  let msg := if start then "frame starting offset must be a non-negative number"
    else "frame ending offset must be a non-negative number"
  match v.numericForComparison with
  | .integer i => if i < 0 then .error msg else .ok (.integer i)
  | .real r => if r < 0.0 then .error msg else .ok (.real r)
  | _ => .error msg

/-- The rows of the frame of row `i` of a partition of `n` rows, given the
groups of peers as index ranges. -/
def frameRows (shape : WindowShape) (orderValues : Array (List SqlValue)) (groups : Array (Nat × Nat))
    (groupOf : Array Nat) (n i : Nat) : Except String (List Nat) := do
  let g := groupOf[i]!
  let (peerLo, peerHi) := groups[g]!
  let lo ← match shape.unit, shape.start with
    | _, .unboundedPreceding => pure (0 : Int)
    | .rows, .preceding v => do let k ← integerOffset true v; pure ((i : Int) - k)
    | .rows, .currentRow => pure (i : Int)
    | .rows, .following v => do let k ← integerOffset true v; pure ((i : Int) + k)
    | .groups, .preceding v => do
      let k ← integerOffset true v
      pure (if (g : Int) - k < 0 then 0 else (groups[g - k]!).1)
    | .groups, .currentRow => pure (peerLo : Int)
    | .groups, .following v => do
      let k ← integerOffset true v
      pure (if g + k ≥ groups.size then (n : Int) else (groups[g + k]!).1)
    | .range, .currentRow => pure (peerLo : Int)
    | .range, .preceding v | .range, .following v => do
      let off ← numberOffset true v
      let isPreceding := match shape.start with
        | .preceding _ => true
        | _ => false
      let key := (orderValues[i]!).headD .null
      let desc := (shape.orderSpecs.headD (false, true, .binary)).1
      match key with
      | .null => pure (peerLo : Int)
      | _ =>
        let target := arithmetic (if isPreceding != desc then .sub else .add) key off
        let first := (List.range n).find? fun j =>
          let v := (orderValues[j]!).headD .null
          match v with
          | .null => false
          | _ => if desc then v.compare target != .gt else v.compare target != .lt
        pure ((first.getD n : Nat) : Int)
    | _, .unboundedFollowing => pure (n : Int)
  let hi ← match shape.unit, shape.stop with
    | _, .unboundedFollowing => pure ((n : Int) - 1)
    | .rows, .preceding v => do let k ← integerOffset false v; pure ((i : Int) - k)
    | .rows, .currentRow => pure (i : Int)
    | .rows, .following v => do let k ← integerOffset false v; pure ((i : Int) + k)
    | .groups, .preceding v => do
      let k ← integerOffset false v
      pure (if (g : Int) - k < 0 then -1 else (groups[g - k]!).2)
    | .groups, .currentRow => pure (peerHi : Int)
    | .groups, .following v => do
      let k ← integerOffset false v
      pure (if g + k ≥ groups.size then (n : Int) - 1 else (groups[g + k]!).2)
    | .range, .currentRow => pure (peerHi : Int)
    | .range, .preceding v | .range, .following v => do
      let off ← numberOffset false v
      let isPreceding := match shape.stop with
        | .preceding _ => true
        | _ => false
      let key := (orderValues[i]!).headD .null
      let desc := (shape.orderSpecs.headD (false, true, .binary)).1
      match key with
      | .null => pure (peerHi : Int)
      | _ =>
        let target := arithmetic (if isPreceding != desc then .sub else .add) key off
        let last := (List.range n).reverse.find? fun j =>
          let v := (orderValues[j]!).headD .null
          match v with
          | .null => false
          | _ => if desc then v.compare target != .lt else v.compare target != .gt
        pure (match last with
          | some j => (j : Int)
          | none => -1)
    | _, .unboundedPreceding => pure (-1 : Int)
  let lo := max lo 0
  let hi := min hi ((n : Int) - 1)
  let rows := if lo > hi then [] else (List.range (hi - lo + 1).toNat).map (fun k => k + lo.toNat)
  let kept := rows.filter fun j =>
    match shape.exclusion with
    | .noOthers => true
    | .currentRow => j != i
    | .group => !(peerLo ≤ j && j ≤ peerHi)
    | .ties => j == i || !(peerLo ≤ j && j ≤ peerHi)
  pure kept

/-- The values of a window function for the rows of one partition, in its
sorted order. -/
def partitionValues (shape : WindowShape) (rows : Array WindowInput) : Except String (Array SqlValue) := do
  let n := rows.size
  let orderValues := rows.map (·.order)
  let specs := shape.orderSpecs
  let peerRuns := runsBy (fun a b => compareKeys specs (orderValues[a]!) (orderValues[b]!) == .eq)
    (List.range n)
  let groups : Array (Nat × Nat) := (peerRuns.map fun r => (r.headD 0, r.getLastD 0)).toArray
  let groupOf : Array Nat := Id.run do
    let mut out := Array.replicate n 0
    for gi in [0:groups.size] do
      let (a, b) := groups[gi]!
      for j in [a:b + 1] do
        out := out.set! j gi
    return out
  let arg (i k : Nat) : SqlValue := (rows[i]!).args.getD k .null
  let mut out : Array SqlValue := #[]
  for i in [0:n] do
    let g := groupOf[i]!
    let value ← match shape.name with
      | "row_number" => pure (SqlValue.integer (i + 1))
      | "rank" => pure (SqlValue.integer ((groups[g]!).1 + 1))
      | "dense_rank" => pure (SqlValue.integer (g + 1))
      | "percent_rank" =>
        pure (SqlValue.real (if n ≤ 1 then 0.0
          else integerToReal (groups[g]!).1 / integerToReal (n - 1)))
      | "cume_dist" => pure (SqlValue.real (integerToReal ((groups[g]!).2 + 1) / integerToReal n))
      | "ntile" =>
        match (arg i 0).withAffinity .numeric with
        | .integer k =>
          if k ≤ 0 then throw "argument of ntile must be a positive integer"
          else
            let k := k.toNat
            let size := n / k
            let big := n % k
            -- the first `big` buckets hold one more row
            let bucket := if size == 0 then i + 1
              else if i < big * (size + 1) then i / (size + 1) + 1
              else big + (i - big * (size + 1)) / size + 1
            pure (SqlValue.integer bucket)
        | .null => pure SqlValue.null
        | _ => throw "argument of ntile must be a positive integer"
      | "lag" | "lead" =>
        let offset : Int := match (rows[i]!).args with
          | _ :: o :: _ => o.intValue
          | _ => 1
        let j : Int := if shape.name == "lag" then (i : Int) - offset else (i : Int) + offset
        if 0 ≤ j && j < n then pure (arg j.toNat 0) else pure (arg i 2)
      | name => do
        let frame ← frameRows shape orderValues groups groupOf n i
        match name with
        | "first_value" => pure ((frame.head?.map (arg · 0)).getD .null)
        | "last_value" => pure ((frame.getLast?.map (arg · 0)).getD .null)
        | "nth_value" =>
          match (arg i 1).withAffinity .numeric with
          | .integer k =>
            if k ≤ 0 then throw "second argument to nth_value must be a positive integer"
            else pure ((frame[k.toNat - 1]?.map (arg · 0)).getD .null)
          | _ => throw "second argument to nth_value must be a positive integer"
        | _ =>
          let acc := frame.foldl (fun acc j =>
            let r := rows[j]!
            if r.passes then (acc.step name shape.collation r.args r.isJson).1 else acc)
            (Accumulator.empty name)
          match acc.finish name with
          | .ok v => pure v
          | .error m => throw m
    out := out.push value
  return out

/-- The values of a window function for all rows, in their given order, and
the order the rows take when sorted by partition and window order. -/
def windowValues (shape : WindowShape) (rows : Array WindowInput) :
    Except String (Array SqlValue × List Nat) := do
  let partSpecs := shape.partitionCollations.map fun c => (false, true, c)
  let specs := partSpecs ++ shape.orderSpecs
  let sorted := stableSortBy specs ((List.range rows.size).map fun i =>
    ((rows[i]!).partition ++ (rows[i]!).order, i))
  let partitions := runsBy (fun a b =>
    compareKeys partSpecs (rows[a.2]!).partition (rows[b.2]!).partition == .eq) sorted
  let mut values := Array.replicate rows.size SqlValue.null
  for part in partitions do
    let idx := part.map (·.2)
    let vs ← partitionValues shape (idx.map (rows[·]!)).toArray
    for (j, v) in idx.zip vs.toList do
      values := values.set! j v
  return (values, sorted.map (·.2))

end ReportExport.Sql
