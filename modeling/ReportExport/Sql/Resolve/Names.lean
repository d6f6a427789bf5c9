import ReportExport.Sql.Resolve.Basic

/-!
# Name resolution: literals, column names and lookups

The pieces of resolution that do not resolve nested queries: the value of a
numeric literal (which depends on a minus sign before it), the tests that
pick ORDER BY ordinals and skip COLLATE, how a result column is named, and
the lookup of a column name through the levels.
-/

namespace ReportExport.Sql.Resolve

open ReportExport.Sql
open ReportExport.Text

/-- The value of an integer literal, negated when a minus sign stands before
it. A decimal literal too large for 64 bits is read as a double (except
that `-9223372036854775808` is the least integer); a hexadecimal one is an
error. -/
def integerLiteral (text : String) (negated : Bool) : Except String SqlValue :=
  let bytes := bytesOf text
  let isHex := text.startsWith "0x" || text.startsWith "0X"
  let (value, shape) := readIntegerLiteral bytes
  let tooBig := Except.error ("hex literal too big: " ++ (if negated then "-" else "") ++ text)
  let asReal : SqlValue :=
    let r := (readReal bytes).1
    .real (if negated then -r else r)
  match shape with
  | .overflow => if isHex then tooBig else .ok asReal
  | .justAbove => if negated then .ok (.integer minInteger) else .ok asReal
  | _ =>
    if negated && value == minInteger then (if isHex then tooBig else .ok (.integer minInteger))
    else .ok (.integer (if negated then -value else value))

/-- The value of a literal with a point or an exponent, negated when asked. -/
def realLiteral (text : String) (negated : Bool) : SqlValue :=
  let r := (readReal (bytesOf text)).1
  .real (if negated then -r else r)

/-- An English ordinal: 1st, 2nd, 3rd, 4th, 11th, 21st. -/
def ordinal (n : Nat) : String :=
  let suffix :=
    if n % 100 ≥ 11 && n % 100 ≤ 13 then "th"
    else match n % 10 with
      | 1 => "st" | 2 => "nd" | 3 => "rd" | _ => "th"
  toString n ++ suffix

/-- The expression under COLLATE and under likely(), unlikely() and
likelihood(). -/
def skipCollate : Nat → Expr → Expr
  | 0, e => e
  | fuel + 1, e =>
    match e with
    | .collate x _ => skipCollate fuel x
    | .call n (x :: _) false false [] none none =>
      let l := n.toLower
      if l == "likely" || l == "unlikely" || l == "likelihood" then skipCollate fuel x else e
    | _ => e

/-- The integer an ORDER BY or GROUP BY term names a column by: a literal
that fits in 32 bits, possibly under a sign. -/
def ordinalTerm? : Expr → Option Int
  | .number t false =>
    match integerLiteral t false with
    | .ok (.integer i) => if -2147483648 ≤ i && i ≤ 2147483647 then some i else none
    | _ => none
  | .unary .pos (.number t false) => ordinalTerm? (.number t false)
  | .unary .neg (.number t false) => (ordinalTerm? (.number t false)).map (- ·)
  | _ => none

/-- Whether an expression is constant as written: literals, parameters and
truth words under operators; no names, queries or function calls. -/
def isConstant : Nat → Expr → Bool
  | 0, _ => false
  | fuel + 1, e =>
    match e with
    | .literal _ | .number _ _ | .param _ => true
    | .column none none n false => isTruthName n
    | .unary _ x | .collate x _ | .cast x _ | .isNull x _ | .truth x _ _ => isConstant fuel x
    | .binary _ a b => isConstant fuel a && isConstant fuel b
    | .between x lo hi _ => isConstant fuel x && isConstant fuel lo && isConstant fuel hi
    | .caseOf operand branches otherwise =>
      (operand.all (isConstant fuel)) &&
        branches.all (fun (w, t) => isConstant fuel w && isConstant fuel t) &&
        otherwise.all (isConstant fuel)
    | _ => false

/-- How a result column is named in each of the three ways: its alias (or
the column name of a `*`), its text, the bare name it was written as, the
table column it reads (directly, or under COLLATE and likely()), and the
kinds of value it may hold (bit 1 numbers, bit 2 text, bit 4 blobs). -/
structure Naming where
  aliasName : Option String := none
  span : String := ""
  word : Option String := none
  direct : Option String := none
  through : Option String := none
  kinds : Nat := 7
  /-- the declared type of the table column it is, read directly -/
  declared : Option String := none
  deriving Inhabited

/-- The name of a column in a query's result: its alias, else the table
column it reads, else its text. -/
def Naming.display (n : Naming) (i : Nat) : String :=
  match n.aliasName, n.direct with
  | some a, _ => a
  | none, some d => d
  | none, none => if n.span.isEmpty then "column" ++ toString (i + 1) else n.span

/-- The name of a column of a query in FROM: its alias, else the bare name
it was written as, else its text; a truth word is replaced. -/
def Naming.asSubquery (n : Naming) (i : Nat) : String :=
  let base := match n.aliasName, n.word with
    | some a, _ => a
    | none, some w => w
    | none, none => n.span
  if base.isEmpty || isTruthName base then "column" ++ toString (i + 1) else base

/-- The name of a column of a view or of a table made from a query: its
alias, else the table column it reads, else its text. -/
def Naming.asView (n : Naming) (i : Nat) : String :=
  let base := match n.aliasName, n.through with
    | some a, _ => a
    | none, some t => t
    | none, none => n.span
  if base.isEmpty || isTruthName base then "column" ++ toString (i + 1) else base

/-- The bare name an expression is written as: a name, or the last part of
a qualified name. -/
def wordOf : Expr → Option String
  | .column _ _ n _ => some n
  | _ => none

/-- The kinds of value an expression may hold, for the affinity of a column
of a compound query: 1 numbers, 2 text, 4 blobs. -/
def kindsOf : Nat → Expr → Typing → Nat
  | 0, _, _ => 7
  | fuel + 1, e, ty =>
    match e with
    | .collate x _ | .unary .pos x => kindsOf fuel x ty
    | .literal .null => 0
    | .literal (.text _) => 2
    | .literal (.blob _) => 4
    | .binary .concat _ _ => 6
    | .param _ | .call .. => 7
    | .column .. | .subquery _ | .cast .. | .row _ =>
      if ty.affinity.isNumeric then 5 else if ty.affinity == .text then 6 else 7
    | .caseOf _ branches otherwise =>
      let results := branches.map (·.2) ++ otherwise.toList
      results.foldl (fun m r => m ||| kindsOf fuel r {}) 0
    | _ => 1

/-! ## Looking up a column -/

/-- Whether a name is one of the names of the rowid. -/
def isRowidName (n : String) : Bool :=
  let l := n.toLower
  l == "rowid" || l == "oid" || l == "_rowid_"

/-- Whether a qualifier names the schema table. -/
def isSchemaName (n : String) : Bool :=
  let l := n.toLower
  l == "sqlite_master" || l == "sqlite_schema" || l == "sqlite_temp_master" ||
    l == "sqlite_temp_schema"

/-- What a name found in a level is. -/
inductive Found where
  /-- a column or rowid: the term, typing, and the name it is shown by -/
  | column (t : Term) (ty : Typing) (shown : String)
  /-- a result alias -/
  | aliasName (a : Alias)
  /-- more than one column -/
  | ambiguous
  | none
  deriving Inhabited

/-- The term of an item's column (or rowid, `none`) at a depth. -/
def Item.term (it : Item) (depth : Nat) : Option Nat → Term
  | some j => .column depth (it.offset + 1 + j)
  | none => .column depth it.offset

/-- The typing and term of an item's column. -/
def Item.columnAt (it : Item) (depth j : Nat) : Term × Typing :=
  let col := it.columns[j]!
  if it.rowid == some (some j) then (it.term depth (some j), { affinity := .integer })
  else
    let t := it.term depth (some j)
    (if col.jsonValued then .jsonValue t else t, { affinity := col.affinity, collation := some col.collation })

/-- What the scan of a level's items for a column finds so far: the number
of matches, the match, the earlier matches of a FULL join (whose values are
coalesced), the number of items that could give a rowid, and the last of
them. -/
structure Scan where
  count : Nat := 0
  found : Option (Item × Nat) := none
  full : Option (List (Item × Nat)) := some []
  rowids : Nat := 0
  rowidItem : Option Item := none
  deriving Inhabited

/-- One item of the scan: a column shared through USING keeps the left-most
match of an inner or LEFT join, the right-most of a RIGHT join, and all
matches of a FULL join; any other repetition is ambiguous. -/
def Scan.step (name : String) (sc : Scan) (it : Item) : Scan :=
  match it.columns.findIdx? (fun c => sameName c.name name) with
  | some j =>
    if sc.count > 0 then
      if !(it.shared.any (sameName · name)) then
        { sc with count := sc.count + 1, found := some (it, j), full := none }
      else if it.kind != .right && it.kind != .full then sc
      else if it.kind == .right then { sc with count := 1, found := some (it, j), full := some [] }
      else
        let earlier := match sc.full, sc.found with
          | some l, some m => some (l ++ [m])
          | _, _ => none
        { sc with count := sc.count + 1, found := some (it, j), full := earlier }
    else { sc with count := 1, found := some (it, j) }
  | none =>
    if sc.count == 0 && it.rowid.isSome then { sc with rowids := sc.rowids + 1, rowidItem := some it }
    else sc

/-- Looks a column name up in one level. -/
def Level.find (lv : Level) (depth : Nat) (schema table : Option String) (name : String) : Found :=
  let candidates := lv.items.toList.filter fun it =>
    match table with
    | none => !it.qualifiedOnly
    | some t => sameName it.name t || (it.isSchema && isSchemaName t)
  let schemaOk := match schema with
    | none => true
    | some s => sameName s "main" || sameName s "temp"
  if !schemaOk then .none
  else
    let sc := candidates.foldl (Scan.step name) {}
    match sc.found with
    | some (it, j) =>
      if sc.count == 1 then
        let (t, ty) := it.columnAt depth j
        .column t ty (it.columns[j]!).name
      else
        match sc.full with
        | some earlier =>
          if earlier.length + 1 == sc.count then
            let terms := (earlier ++ [(it, j)]).map fun (i, k) => (i.columnAt depth k).1
            .column (.call "coalesce" terms .binary) {} (it.columns[j]!).name
          else .ambiguous
        | none => .ambiguous
    | none =>
      if sc.rowids ≥ 1 && isRowidName name then
        if sc.rowids > 1 then .ambiguous
        else match sc.rowidItem with
          | some it =>
            let shown := match it.rowid with
              | some (some j) => (it.columns[j]!).name
              | _ => "rowid"
            .column (it.term depth none) { affinity := .integer } shown
          | none => .none
      else if table.isNone && lv.useAliases then
        match lv.aliases.find? (fun a => sameName a.name name) with
        | some a => .aliasName a
        | none => .none
      else .none

/-- The text a missing column is reported by. -/
def missingName (schema table : Option String) (name : String) : String :=
  match schema, table with
  | some s, some t => s ++ "." ++ t ++ "." ++ name
  | _, some t => t ++ "." ++ name
  | _, none => name

end ReportExport.Sql.Resolve
