import ReportExport.Sql.Arith

/-!
# Mathematical functions

The functions of one or two numbers: rounding to an integral value
(`ceil`, `floor`, `trunc`), logarithms, powers, the trigonometric and
hyperbolic functions and their inverses, and angle conversions.

An argument is read as a number the way a numeric comparison reads it: text
that spells a number becomes that number, and any other text, a blob or NULL
makes the result NULL. Results are doubles, except that rounding an integer
gives it back unchanged; a result that is not a number (the square root of a
negative number, say) is NULL.
-/

namespace ReportExport.Sql

/-- An argument as a number, when it is one. -/
def numericArgument (v : SqlValue) : Option SqlValue :=
  match v.numericForComparison with
  | .integer i => some (.integer i)
  | .real r => some (.real r)
  | _ => none

/-- Rounds toward zero. -/
def truncFloat (x : Float) : Float := if x < 0.0 then x.ceil else x.floor

/-- The significand and exponent of a finite nonzero double:
`|x| = m · 2 ^ e` with `m` a natural number. -/
def floatDyadic (x : Float) : Nat × Int :=
  let (f, e) := x.abs.frExp
  ((f.scaleB 53).toUInt64.toNat, e - 53)

/-- The remainder of `x / y` with the sign of `x`, exact: `x - n · y` for the
integer `n` nearest `x / y` toward zero. -/
def fmodFloat (x y : Float) : Float :=
  if x.isNaN || y.isNaN || x.isInf || y == 0.0 then 0.0 / 0.0
  else if y.isInf || x == 0.0 then x
  else
    let (mx, ex) := floatDyadic x
    let (my, ey) := floatDyadic y
    let e := min ex ey
    let bx := mx * Nat.pow 2 (ex - e).toNat
    let by_ := my * Nat.pow 2 (ey - e).toNat
    let r := (Float.ofNat (bx % by_)).scaleB e
    if x < 0.0 then -r else r

/-- Applies a function of one double to a numeric argument. -/
def mathOne (f : Float → Float) (v : SqlValue) : SqlValue :=
  match numericArgument v with
  | some n => realResult (f n.realValue)
  | none => .null

/-- Applies a function of two doubles to numeric arguments. -/
def mathTwo (f : Float → Float → Float) (a b : SqlValue) : SqlValue :=
  match numericArgument a, numericArgument b with
  | some x, some y => realResult (f x.realValue y.realValue)
  | _, _ => .null

/-- Rounds a numeric argument to an integral value; integers stay. -/
def roundIntegral (f : Float → Float) (v : SqlValue) : SqlValue :=
  match numericArgument v with
  | some (.integer i) => .integer i
  | some n => realResult (f n.realValue)
  | none => .null

/-- The logarithm of a positive argument in a base: `ln` for `e`, `log` and
`log10` for ten, `log2` for two. -/
def logValue (base : Nat) (v : SqlValue) : SqlValue :=
  match numericArgument v with
  | some n =>
    let x := n.realValue
    if x ≤ 0.0 then .null
    else realResult (match base with
      | 10 => x.log10
      | 2 => x.log2
      | _ => x.log)
  | none => .null

/-- `log(b, x)`: the logarithm of `x` in base `b`; NULL unless `b > 1` and
`x > 0`. -/
def logBaseValue (b x : SqlValue) : SqlValue :=
  match numericArgument b with
  | some nb =>
    let base := nb.realValue
    if base ≤ 0.0 then .null
    else
      let lb := base.log
      if lb ≤ 0.0 then .null
      else
        let v := x.realValue
        if v ≤ 0.0 then .null else realResult (v.log / lb)
  | none => .null

/-- The value of pi. -/
def piValue : Float := 3.141592653589793

/-- The mathematical functions by name; `none` for other names. -/
def mathFunction (name : String) (args : List SqlValue) : Option SqlValue :=
  let arg (i : Nat) : SqlValue := args.getD i .null
  match name, args.length with
  | "ceil", _ | "ceiling", _ => some (roundIntegral Float.ceil (arg 0))
  | "floor", _ => some (roundIntegral Float.floor (arg 0))
  | "trunc", _ => some (roundIntegral truncFloat (arg 0))
  | "ln", _ => some (logValue 0 (arg 0))
  | "log", 2 => some (logBaseValue (arg 0) (arg 1))
  | "log", _ | "log10", _ => some (logValue 10 (arg 0))
  | "log2", _ => some (logValue 2 (arg 0))
  | "exp", _ => some (mathOne Float.exp (arg 0))
  | "sqrt", _ => some (mathOne Float.sqrt (arg 0))
  | "sin", _ => some (mathOne Float.sin (arg 0))
  | "cos", _ => some (mathOne Float.cos (arg 0))
  | "tan", _ => some (mathOne Float.tan (arg 0))
  | "asin", _ => some (mathOne Float.asin (arg 0))
  | "acos", _ => some (mathOne Float.acos (arg 0))
  | "atan", _ => some (mathOne Float.atan (arg 0))
  | "sinh", _ => some (mathOne Float.sinh (arg 0))
  | "cosh", _ => some (mathOne Float.cosh (arg 0))
  | "tanh", _ => some (mathOne Float.tanh (arg 0))
  | "asinh", _ => some (mathOne Float.asinh (arg 0))
  | "acosh", _ => some (mathOne Float.acosh (arg 0))
  | "atanh", _ => some (mathOne Float.atanh (arg 0))
  | "degrees", _ => some (mathOne (fun x => x * (180.0 / piValue)) (arg 0))
  | "radians", _ => some (mathOne (fun x => x * (piValue / 180.0)) (arg 0))
  | "atan2", _ => some (mathTwo Float.atan2 (arg 0) (arg 1))
  | "pow", _ | "power", _ => some (mathTwo Float.pow (arg 0) (arg 1))
  | "mod", _ => some (mathTwo fmodFloat (arg 0) (arg 1))
  | "pi", _ => some (.real piValue)
  | _, _ => none

end ReportExport.Sql
