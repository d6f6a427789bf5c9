import ReportExport.Sql.Collation
import ReportExport.Sql.Plan

/-!
# Operators on values

Arithmetic works on integers while both operands are integers (or text that
reads as one) and the result fits in 64 bits; otherwise on doubles. Division
and remainder by zero give NULL, as does a result that is not a number.

Comparisons first apply the affinity their rule carries: a numeric affinity
turns text operands that read as numbers into numbers, text affinity turns
numbers into text when the other operand is text. Then values order by class
(NULL, numbers, text, blobs), numbers by value, text by the collation.

LIKE and GLOB match a pattern character by character; LIKE folds ASCII case.
-/

namespace ReportExport.Sql

open Text

/-- A double as a result: NULL when it is not a number. -/
def realResult (r : Float) : SqlValue := if r.isNaN then .null else .real r

/-- Arithmetic on doubles: the left and right operands read as doubles. -/
def realArithmetic (op : BinaryOp) (a b : SqlValue) : SqlValue :=
  let l := a.realValue
  let r := b.realValue
  match op with
  | .add => realResult (l + r)
  | .sub => realResult (l - r)
  | .mul => realResult (l * r)
  | .div => if r == 0.0 then .null else realResult (l / r)
  | _ =>
    let x := a.intValue
    let y := b.intValue
    if y == 0 then .null
    else
      let y := if y == -1 then 1 else y
      realResult (integerToReal (Int.tmod x y))

/-- Arithmetic on two integers, falling back to doubles on overflow. -/
def integerArithmetic (op : BinaryOp) (x y : Int) : SqlValue :=
  let checked (i : Int) : SqlValue :=
    if fitsInteger i then .integer i else realArithmetic op (.integer x) (.integer y)
  match op with
  | .add => checked (x + y)
  | .sub => checked (x - y)
  | .mul => checked (x * y)
  | .div =>
    if y == 0 then .null
    else if y == -1 && x == minInteger then realArithmetic op (.integer x) (.integer y)
    else .integer (Int.tdiv x y)
  | _ =>
    if y == 0 then .null
    else .integer (Int.tmod x (if y == -1 then 1 else y))

/-- `+`, `-`, `*`, `/` and `%`. -/
def arithmetic (op : BinaryOp) (a b : SqlValue) : SqlValue :=
  match a, b with
  | .null, _ | _, .null => .null
  | .integer x, .integer y => integerArithmetic op x y
  | _, _ =>
    match a.numeric, b.numeric with
    | .integer x, .integer y => integerArithmetic op x y
    | _, _ => realArithmetic op a b

/-- `||`: the text forms joined; NULL when either is NULL. -/
def concatenate (a b : SqlValue) : SqlValue :=
  match a.textBytes?, b.textBytes? with
  | some x, some y => .text (x ++ y)
  | _, _ => .null

/-- Two's complement of a 64-bit integer, as a natural number below 2^64. -/
def toWord (i : Int) : Nat := (i % 18446744073709551616).toNat

/-- A natural number below 2^64 as a signed 64-bit integer. -/
def ofWord (n : Nat) : Int :=
  let n := n % 18446744073709551616
  if n ≥ 9223372036854775808 then (n : Int) - 18446744073709551616 else n

/-- `&`, `|`, `<<` and `>>` on the integer values of the operands; a
negative shift shifts the other way, and a right shift keeps the sign. -/
def bitwise (op : BinaryOp) (a b : SqlValue) : SqlValue :=
  match a, b with
  | .null, _ | _, .null => .null
  | _, _ =>
    let x := a.intValue
    let y := b.intValue
    match op with
    | .bitAnd => .integer (ofWord (toWord x &&& toWord y))
    | .bitOr => .integer (ofWord (toWord x ||| toWord y))
    | _ =>
      if y == 0 then .integer x
      else
        let left := (op == .shl) != (y < 0)
        let n := if y < 0 then (if y > -64 then (-y).toNat else 64) else y.toNat
        if n ≥ 64 then .integer (if x ≥ 0 || left then 0 else -1)
        else if left then .integer (ofWord (toWord x * Nat.pow 2 n))
        else
          let shifted := toWord x / Nat.pow 2 n
          if x < 0 then
            .integer (ofWord (shifted + (18446744073709551616 - Nat.pow 2 (64 - n))))
          else .integer (ofWord shifted)

/-- `- x`, which is `0 - x`. -/
def negateValue (v : SqlValue) : SqlValue := arithmetic .sub (.integer 0) v

/-- `~ x`. -/
def bitNotValue : SqlValue → SqlValue
  | .null => .null
  | v => .integer (-(v.intValue) - 1)

/-- `NOT x`. -/
def notValue : SqlValue → SqlValue
  | .null => .null
  | v => .integer (if v.truthOr false then 0 else 1)

/-! ## Comparison -/

/-- The operands of a comparison after its affinity is applied. -/
def applyComparisonAffinity (a : Affinity) (x y : SqlValue) : SqlValue × SqlValue :=
  if a.isNumeric then (x.numericForComparison, y.numericForComparison)
  else if a == .text then
    let isText : SqlValue → Bool
      | .text _ => true
      | _ => false
    if isText x || isText y then
      let toText : SqlValue → SqlValue
        | .integer i => .text (bytesOf (toString i))
        | .real r => .text (bytesOf (realText r))
        | v => v
      (toText x, toText y)
    else (x, y)
  else (x, y)

/-- The order of two non-NULL operands under a rule; none when either is NULL. -/
def compareUnder (rule : CompareRule) (x y : SqlValue) : Option Ordering :=
  if x.isNull || y.isNull then none
  else
    let (x, y) := applyComparisonAffinity rule.affinity x y
    some (x.compareWith rule.collation y)

/-- A comparison of two values under a rule: NULL when an operand is NULL,
except for IS and IS NOT, for which NULL equals NULL. -/
def compareValues (op : Comparison) (rule : CompareRule) (x y : SqlValue) : SqlValue :=
  match op with
  | .is | .isNot =>
    let same := match x, y with
      | .null, .null => true
      | .null, _ | _, .null => false
      | _, _ => compareUnder rule x y == some .eq
    .integer (if same == (op == .is) then 1 else 0)
  | _ =>
    match compareUnder rule x y with
    | some o => .integer (if op.holds o then 1 else 0)
    | none => .null

/-- Three-valued AND. -/
def andValues (a b : Option Bool) : Option Bool :=
  match a, b with
  | some false, _ | _, some false => some false
  | some true, some true => some true
  | _, _ => none

/-- Three-valued OR. -/
def orValues (a b : Option Bool) : Option Bool :=
  match a, b with
  | some true, _ | _, some true => some true
  | some false, some false => some false
  | _, _ => none

/-! ## LIKE and GLOB -/

/-- How a pattern matches: the wildcard for any run, for one character, the
character that starts a set or escapes, and whether ASCII case is folded. -/
structure PatternRules where
  matchAll : Nat
  matchOne : Nat
  matchOther : Nat
  sets : Bool
  noCase : Bool

/-- The outcome of matching: a match, no match, or no match that no later
position of a wildcard could change. -/
inductive PatternResult where
  | matched
  | noMatch
  | noWildcardMatch
  deriving DecidableEq, Inhabited

/-- The ASCII lower case of a code point. -/
def lowerPoint (c : Nat) : Nat := if 65 ≤ c && c ≤ 90 then c + 32 else c

/-- Reads a set `[...]` of GLOB after its `[`: whether `c` is in it, and the
pattern after the `]`; none when the set is not closed. -/
def readSet (c : Nat) (pat : List Nat) : Option (Bool × List Nat) :=
  let (invert, pat) := match pat with
    | 94 :: rest => (true, rest)
    | _ => (false, pat)
  let (seen, pat) := match pat with
    | 93 :: rest => (c == 93, rest)
    | _ => (false, pat)
  let rec scan (seen : Bool) (prior : Nat) : List Nat → Nat → Option (Bool × List Nat)
    | [], _ => none
    | _, 0 => none
    | 93 :: rest, _ => some (seen, rest)
    | 45 :: next :: rest, fuel + 1 =>
      if next != 93 && prior > 0 then scan (seen || (c ≥ prior && c ≤ next)) 0 rest fuel
      else scan (seen || c == 45) 45 (next :: rest) fuel
    | d :: rest, fuel + 1 => scan (seen || c == d) d rest fuel
  match scan seen 0 pat (pat.length + 1) with
  | some (s, rest) => some (s != invert, rest)
  | none => none

/-- Matches a pattern against a text, both as code points. -/
def patternMatch (rules : PatternRules) : Nat → List Nat → List Nat → PatternResult
  | 0, _, _ => .noMatch
  | _, [], str => if str.isEmpty then .matched else .noMatch
  | fuel + 1, c :: pat, str =>
    if c == rules.matchAll then
      -- skip further wildcards, each one-character wildcard taking a character
      let rec skip (pat str : List Nat) : Nat → Option (List Nat × List Nat)
        | 0 => some (pat, str)
        | n + 1 =>
          match pat with
          | d :: rest =>
            if d == rules.matchAll then skip rest str n
            else if d == rules.matchOne && rules.matchOne != 0 then
              match str with
              | _ :: more => skip rest more n
              | [] => none
            else some (pat, str)
          | [] => some (pat, str)
      match skip pat str (pat.length + 1) with
      | none => .noWildcardMatch
      | some ([], _) => .matched
      | some (d :: rest, str) =>
        if d == rules.matchOther && rules.sets then
          let rec trySet (s : List Nat) : Nat → PatternResult
            | 0 => .noWildcardMatch
            | n + 1 =>
              match s with
              | [] => .noWildcardMatch
              | _ :: more =>
                match patternMatch rules fuel (d :: rest) s with
                | .noMatch => trySet more n
                | r => r
          trySet str (str.length + 1)
        else
          let (d, rest, ok) : Nat × List Nat × Bool :=
            if d == rules.matchOther && !rules.sets then
              match rest with
              | e :: more => (e, more, true)
              | [] => (0, [], false)
            else (d, rest, true)
          if !ok then .noWildcardMatch
          else
            let same (x : Nat) : Bool :=
              if rules.noCase && d < 0x80 then lowerPoint x == lowerPoint d else x == d
            let rec search (s : List Nat) : Nat → PatternResult
              | 0 => .noWildcardMatch
              | n + 1 =>
                match s with
                | [] => .noWildcardMatch
                | x :: more =>
                  if same x then
                    match patternMatch rules fuel rest more with
                    | .noMatch => search more n
                    | r => r
                  else search more n
            search str (str.length + 1)
    else if c == rules.matchOther && rules.sets then
      match str with
      | [] => .noMatch
      | x :: more =>
        match readSet x pat with
        | some (true, rest) => patternMatch rules fuel rest more
        | _ => .noMatch
    else
      let (c, pat, escaped) : Nat × List Nat × Bool :=
        if c == rules.matchOther && !rules.sets then
          match pat with
          | e :: rest => (e, rest, true)
          | [] => (0, [], true)
        else (c, pat, false)
      if escaped && c == 0 then .noMatch
      else
        match str with
        | [] => .noMatch
        | x :: more =>
          if x == c then patternMatch rules fuel pat more
          else if rules.noCase && lowerPoint x == lowerPoint c && x < 0x80 && c < 0x80 then
            patternMatch rules fuel pat more
          else if c == rules.matchOne && !escaped then patternMatch rules fuel pat more
          else .noMatch

/-- The code points of a value's text up to its first NUL. -/
def patternPoints (bs : Bytes) : List Nat := codePoints (untilNul bs)

/-- `like(pattern, text [, escape])` and `glob(pattern, text)`. -/
def patternFunction (glob : Bool) (args : List SqlValue) : Except String SqlValue :=
  match args with
  | pat :: str :: rest =>
    match pat.textBytes?, str.textBytes? with
    | some p, some s =>
      if p.length > 50000 then .error "LIKE or GLOB pattern too complex"
      else
        let base : PatternRules :=
          if glob then { matchAll := 42, matchOne := 63, matchOther := 91, sets := true, noCase := false }
          else { matchAll := 37, matchOne := 95, matchOther := 0, sets := false, noCase := true }
        let rules : Except String (Option PatternRules) :=
          match rest with
          | [esc] =>
            match esc.textBytes? with
            | none => .ok none
            | some e =>
              match patternPoints e with
              | [c] =>
                .ok (some { base with matchOther := c,
                                      matchAll := if c == base.matchAll then 0 else base.matchAll,
                                      matchOne := if c == base.matchOne then 0 else base.matchOne })
              | _ => .error "ESCAPE expression must be a single character"
          | _ => .ok (some base)
        match rules with
        | .error m => .error m
        | .ok none => .ok .null
        | .ok (some r) =>
          let pp := patternPoints p
          let sp := patternPoints s
          let result := patternMatch r (pp.length + sp.length + 2) pp sp
          .ok (.integer (if result == .matched then 1 else 0))
    | _, _ =>
      match rest with
      | [esc] =>
        match esc.textBytes? with
        | some e => if (patternPoints e).length != 1 then
            .error "ESCAPE expression must be a single character" else .ok .null
        | none => .ok .null
      | _ => .ok .null
  | _ => .ok .null

end ReportExport.Sql
