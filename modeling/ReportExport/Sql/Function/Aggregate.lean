import ReportExport.Sql.Function.Json

/-!
# Aggregate functions

An aggregate keeps an accumulator per group, steps it with the arguments of
each row, and gives its result at the end.

`sum`, `total` and `avg` add integers exactly while they fit; the first
value that is not an integer, or an overflow, switches to adding doubles
with the Kahan-Babuska-Neumaier correction. An overflow that no double
follows makes `sum` fail with "integer overflow".

`min` and `max` keep the first of equal values, and tell whether a row did
not become the new extreme (so that the other columns of the query keep the
values of the extreme row).
-/

namespace ReportExport.Sql

open Text

/-- The running state of `sum`, `total` and `avg`. -/
structure SumState where
  rSum : Float := 0.0
  rErr : Float := 0.0
  iSum : Int := 0
  count : Nat := 0
  approx : Bool := false
  overflow : Bool := false
  deriving Inhabited

namespace SumState

/-- Adds a double with the error term. -/
def addReal (s : SumState) (r : Float) : SumState :=
  let t := s.rSum + r
  let err := if s.rSum.abs > r.abs then (s.rSum - t) + r else (r - t) + s.rSum
  { s with rSum := t, rErr := s.rErr + err }

/-- Adds a 64-bit integer as doubles, splitting large ones so no bits are lost. -/
def addIntegerAsReal (s : SumState) (i : Int) : SumState :=
  if i ≤ -4503599627370496 || i ≥ 4503599627370496 then
    let small := Int.tmod i 16384
    (s.addReal (integerToReal (i - small))).addReal (integerToReal small)
  else s.addReal (integerToReal i)

/-- Starts adding doubles from the integer sum so far. -/
def startReal (s : SumState) : SumState :=
  let i := s.iSum
  if i ≤ -4503599627370496 || i ≥ 4503599627370496 then
    let small := Int.tmod i 16384
    { s with rSum := integerToReal (i - small), rErr := integerToReal small, approx := true }
  else { s with rSum := integerToReal i, rErr := 0.0, approx := true }

/-- Adds a value: NULL is skipped; text that is wholly a number counts as
that number, other text and blobs as the double they begin with. -/
def add (s : SumState) (v : SqlValue) : SumState :=
  match v with
  | .null => s
  | _ =>
    let v := v.numericForComparison
    let s := { s with count := s.count + 1 }
    match v with
    | .integer i =>
      if !s.approx then
        if fitsInteger (s.iSum + i) then { s with iSum := s.iSum + i }
        else ({ s.startReal with overflow := true }).addIntegerAsReal i
      else s.addIntegerAsReal i
    | _ =>
      if !s.approx then s.startReal.addReal v.realValue
      else { s with overflow := false }.addReal v.realValue

/-- The double of the sum: the running sum with its error term, unless that
term overflowed. -/
def realSum (s : SumState) : Float :=
  if s.approx then
    if s.rErr.isInf || s.rErr.isNaN then s.rSum else s.rSum + s.rErr
  else integerToReal s.iSum

end SumState

/-- The accumulator of an aggregate call. -/
inductive Accumulator where
  | count (n : Nat)
  | sum (s : SumState)
  /-- the extreme so far -/
  | extreme (best : Option SqlValue)
  /-- the text joined so far, once a value was seen -/
  | concat (text : Option (Array UInt8))
  /-- the values (with whether they are JSON) collected so far -/
  | values (items : Array (SqlValue × SqlValue × Bool))
  deriving Inhabited

/-- The empty accumulator of a function. -/
def Accumulator.empty (name : String) : Accumulator :=
  match name with
  | "count" => .count 0
  | "sum" | "total" | "avg" => .sum {}
  | "min" | "max" => .extreme none
  | "group_concat" | "string_agg" => .concat none
  | _ => .values #[]

/-- Steps an accumulator with a row's arguments (and whether each came from
a JSON function). For `min` and `max` also whether the row did not become
the extreme. -/
def Accumulator.step (name : String) (coll : Collation) (acc : Accumulator) (args : List SqlValue)
    (isJson : List Bool) : Accumulator × Bool :=
  let arg := args.headD .null
  match acc with
  | .count n =>
    match args with
    | [] => (.count (n + 1), false)
    | _ => (.count (if arg.isNull then n else n + 1), false)
  | .sum s => (.sum (s.add arg), false)
  | .extreme best =>
    match arg, best with
    | .null, some _ => (acc, true)
    | .null, none => (acc, false)
    | _, none => (.extreme (some arg), false)
    | _, some b =>
      let o := b.compareWith coll arg
      let better := if name == "max" then o == .lt else o == .gt
      if better then (.extreme (some arg), false) else (acc, true)
  | .concat text =>
    if arg.isNull then (acc, false)
    else
      let value := arg.textBytes.toArray
      match text with
      | none => (.concat (some value), false)
      | some t =>
        let sep : Array UInt8 := match args with
          | [_, s] => s.textBytes.toArray
          | _ => #[0x2c]
        (.concat (some (t ++ sep ++ value)), false)
  | .values items =>
    match name, args with
    | "json_group_object", [k, v] | "jsonb_group_object", [k, v] =>
      (.values (items.push (k, v, isJson.getD 1 false)), false)
    | _, _ => (.values (items.push (arg, .null, isJson.getD 0 false)), false)

/-- The result of an aggregate. -/
def Accumulator.finish (name : String) (acc : Accumulator) : Except String SqlValue :=
  match acc with
  | .count n => .ok (.integer n)
  | .sum s =>
    match name with
    | "total" => .ok (.real s.realSum)
    | "avg" => if s.count == 0 then .ok .null else .ok (.real (s.realSum / integerToReal s.count))
    | _ =>
      if s.count == 0 then .ok .null
      else if s.approx then
        if s.overflow then .error "integer overflow" else .ok (.real s.realSum)
      else .ok (.integer s.iSum)
  | .extreme best => .ok (best.getD .null)
  | .concat text => .ok ((text.map fun t => SqlValue.text t.toList).getD .null)
  | .values items =>
    match name with
    | "json_group_object" | "jsonb_group_object" =>
      jsonGroupObject (name.startsWith "jsonb") (items.toList.map fun (k, v, j) => (k, v, j))
    | _ => jsonGroupArray (name.startsWith "jsonb") (items.toList.map fun (v, _, j) => (v, j))

end ReportExport.Sql
