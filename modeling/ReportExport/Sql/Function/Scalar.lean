import ReportExport.Sql.Arith
import ReportExport.Sql.Printf
import ReportExport.Sql.Function.Catalog
import ReportExport.Sql.Function.Math

/-!
# Scalar functions

The built-in functions of one row that depend on nothing but their
arguments. Functions read their arguments as the engine's C interface does:
as text (the text form, which for text and blobs stops nowhere, but for
functions that scan a terminated string stops at the first NUL), as a blob,
or as a number.

A function's error message fails the statement.
-/

namespace ReportExport.Sql

open Text

/-- The hexadecimal digits, upper case. -/
def hexDigitsUpper : List UInt8 := bytesOf "0123456789ABCDEF"

/-- The upper-case hexadecimal text of bytes. -/
def hexBytes (bs : Bytes) : Bytes :=
  bs.flatMap fun b => [hexDigitsUpper.getD (b.toNat / 16) 0, hexDigitsUpper.getD (b.toNat % 16) 0]

/-- ASCII upper case of the bytes. -/
def upperBytes (bs : Bytes) : Bytes := bs.map upperByte

/-- ASCII lower case of the bytes. -/
def lowerBytes (bs : Bytes) : Bytes := bs.map lowerByte

/-- The characters of a text the lenient way, up to its first NUL. -/
def charactersUntilNul (bs : Bytes) : List Bytes := characters (untilNul bs)

/-- `abs(x)`. -/
def absValue : SqlValue → Except String SqlValue
  | .null => .ok .null
  | .integer i =>
    if i == minInteger then .error "integer overflow" else .ok (.integer (if i < 0 then -i else i))
  | v => let r := v.realValue; .ok (.real (if r < 0.0 then -r else r))

/-- `char(x, ...)`: the characters of the code points. -/
def charValue (args : List SqlValue) : SqlValue :=
  .text (args.flatMap fun v =>
    let x := v.intValue
    let x := if x < 0 || x > 0x10ffff then 0xfffd else x
    encodePoint x.toNat)

/-- The text of the arguments joined by a separator, skipping NULL and empty
ones. -/
def concatWith (sep : Bytes) (args : List SqlValue) : SqlValue :=
  let parts := args.filterMap fun v => match v.textBytes? with
    | some b => if b.isEmpty then none else some b
    | none => none
  match parts with
  | [] => .text []
  | p :: rest => .text (rest.foldl (fun acc x => acc ++ sep ++ x) p)

/-- `instr(haystack, needle)`: the position of the first occurrence, counted
in characters for text and bytes for blobs; zero when absent. -/
def instrValue (h n : SqlValue) : SqlValue :=
  match h, n with
  | .null, _ | _, .null => .null
  | _, _ =>
    let isBlob : SqlValue → Bool
      | .blob _ => true
      | _ => false
    let hb := h.textBytes
    let nb := n.textBytes
    if nb.isEmpty then .integer 1
    else
      let isText := !(isBlob h && isBlob n)
      let rec search (hs : Bytes) (pos : Nat) : Nat → Nat
        | 0 => 0
        | fuel + 1 =>
          if nb.length > hs.length then 0
          else if hs.take nb.length == nb then pos
          else
            let rest := hs.drop 1
            let rest := if isText then rest.dropWhile isContinuation else rest
            search rest (pos + 1) fuel
      .integer (search hb 1 (hb.length + 1))

/-- `length(x)`: characters up to the first NUL for text, bytes for blobs
and the text of numbers. -/
def lengthValue : SqlValue → SqlValue
  | .null => .null
  | .text b => .integer (charactersUntilNul b).length
  | v => .integer v.textBytes.length

/-- The characters a trim removes: those of the set's text, up to its NUL. -/
def trimBytes (left right : Bool) (set : List Bytes) (bs : Bytes) : Bytes :=
  let rec dropFront (bs : Bytes) : Nat → Bytes
    | 0 => bs
    | fuel + 1 =>
      match set.find? (fun c => !c.isEmpty && c.length ≤ bs.length && bs.take c.length == c) with
      | some c => dropFront (bs.drop c.length) fuel
      | none => bs
  let rec dropBack (bs : Bytes) : Nat → Bytes
    | 0 => bs
    | fuel + 1 =>
      match set.find? (fun c => !c.isEmpty && c.length ≤ bs.length && bs.drop (bs.length - c.length) == c) with
      | some c => dropBack (bs.take (bs.length - c.length)) fuel
      | none => bs
  let bs := if left then dropFront bs (bs.length + 1) else bs
  if right then dropBack bs (bs.length + 1) else bs

/-- `trim`, `ltrim` and `rtrim`. -/
def trimValue (left right : Bool) (args : List SqlValue) : SqlValue :=
  match args with
  | [.null] | [.null, _] | [_, .null] => .null
  | [x] => .text (trimBytes left right [[0x20]] x.textBytes)
  | [x, y] => .text (trimBytes left right (charactersUntilNul y.textBytes) x.textBytes)
  | _ => .null

/-- `min` and `max` of several values: NULL if any is NULL; the first of
equal maxima, the last of equal minima. -/
def extremeValue (isMax : Bool) (coll : Collation) (args : List SqlValue) : SqlValue :=
  if args.any (·.isNull) then .null
  else
    match args with
    | [] => .null
    | a :: rest =>
      rest.foldl (fun best v =>
        let o := best.compareWith coll v
        if isMax then (if o == .lt then v else best) else (if o != .lt then v else best)) a

/-- The text `quote` and SQL literals give a double: fifteen digits, or
twenty in scientific form when fifteen do not read back the same. -/
def quoteReal (r : Float) : String :=
  let short := formatReal { conversion := .general, precision := some 15, extended := true, zeroPad := true } r
  if (readReal (bytesOf short)).1 == r then short
  else formatReal { conversion := .scientific, precision := some 20, extended := true, zeroPad := true } r

/-- `quote(x)`: the value as an SQL literal. -/
def quoteValue : SqlValue → SqlValue
  | .null => .ofString "NULL"
  | .integer i => .ofString (toString i)
  | .real r => .ofString (quoteReal r)
  | .blob b => .text (bytesOf "X'" ++ hexBytes b ++ [0x27])
  | .text b =>
    let t := untilNul b
    .text ([0x27] ++ t.flatMap (fun c => if c == 0x27 then [0x27, 0x27] else [c]) ++ [0x27])

/-- `replace(x, pattern, replacement)`, on bytes. -/
def replaceValue (x p r : SqlValue) : SqlValue :=
  match x.textBytes?, p.textBytes? with
  | some xs, some ps =>
    if ps.headD 0 == 0 then .text xs
    else
      match r.textBytes? with
      | none => .null
      | some rs =>
        let rec go (s : Bytes) (acc : Array UInt8) : Nat → Array UInt8
          | 0 => acc ++ s.toArray
          | fuel + 1 =>
            match s with
            | [] => acc
            | c :: rest =>
              if s.length ≥ ps.length && s.take ps.length == ps then
                go (s.drop ps.length) (acc ++ rs.toArray) fuel
              else go rest (acc.push c) fuel
        .text (go xs #[] (xs.length + 1)).toList
  | _, _ => .null

/-- `round(x [, digits])`: always a double. -/
def roundValue (args : List SqlValue) : SqlValue :=
  let digits : Option Int := match args with
    | [_, .null] => none
    | [_, n] => some (max 0 (min 30 n.intValue))
    | _ => some 0
  match digits, args.headD .null with
  | none, _ => .null
  | _, .null => .null
  | some n, v =>
    let r := v.realValue
    if r < -4503599627370496.0 || r > 4503599627370496.0 then .real r
    else if n == 0 then
      .real (integerToReal (realToInteger (r + (if r < 0.0 then -0.5 else 0.5))))
    else
      let text := formatReal { conversion := .fixed, precision := some n.toNat, extended := true } r
      .real (readReal (bytesOf text)).1

/-- `sign(x)`: -1, 0 or 1 for numbers and text that is wholly a number, else NULL. -/
def signValue (v : SqlValue) : SqlValue :=
  match v.numericForComparison with
  | .integer i => .integer (if i < 0 then -1 else if i > 0 then 1 else 0)
  | .real r => .integer (if r < 0.0 then -1 else if r > 0.0 then 1 else 0)
  | _ => .null

/-- The soundex code of a letter, zero for others. -/
def soundexCode (b : UInt8) : Nat :=
  match Char.ofNat (lowerByte b).toNat with
  | 'b' | 'f' | 'p' | 'v' => 1
  | 'c' | 'g' | 'j' | 'k' | 'q' | 's' | 'x' | 'z' => 2
  | 'd' | 't' => 3
  | 'l' => 4
  | 'm' | 'n' => 5
  | 'r' => 6
  | _ => 0

/-- Whether a byte is an ASCII letter. -/
def isAlphaByte (b : UInt8) : Bool := (0x41 ≤ b && b ≤ 0x5a) || (0x61 ≤ b && b ≤ 0x7a)

/-- `soundex(x)`. -/
def soundexValue (v : SqlValue) : SqlValue :=
  let z := untilNul v.textBytes
  match z.dropWhile (!isAlphaByte ·) with
  | [] => .ofString "?000"
  | first :: rest =>
    let step (acc : List UInt8 × Nat) (b : UInt8) : List UInt8 × Nat :=
      let (out, prev) := acc
      if out.length ≥ 4 then acc
      else
        let code := soundexCode (b &&& 0x7f)
        if code > 0 then
          if code != prev then (out ++ [UInt8.ofNat (48 + code)], code) else (out, prev)
        else (out, 0)
    let (out, _) := rest.foldl step ([upperByte first], soundexCode (first &&& 0x7f))
    .text (out ++ List.replicate (4 - out.length) 0x30)

/-- Reads an integer argument as the C interface does for a 32-bit int. -/
def int32Value (v : SqlValue) : Int :=
  let i := v.intValue
  let m := (i % 4294967296 + 4294967296) % 4294967296
  if m ≥ 2147483648 then m - 4294967296 else m

/-- `substr(x, start [, length])`: characters of text (up to its NUL),
bytes of blobs. -/
def substrValue (args : List SqlValue) : SqlValue :=
  match args with
  | [x, p, q] | [x, p, q, _] => go x p (some q)
  | [x, p] => go x p none
  | _ => .null
where
  go (x p : SqlValue) (q : Option SqlValue) : SqlValue :=
    if p.isNull || (q.any (·.isNull)) || x.isNull then .null
    else
      let isBlob := match x with
        | .blob _ => true
        | _ => false
      let units : List Bytes :=
        if isBlob then x.textBytes.map (fun b => [b]) else charactersUntilNul x.textBytes
      let len : Int := units.length
      let p1 := int32Value p
      let (p2, negP2) : Int × Bool := match q with
        | some v => let n := int32Value v; if n < 0 then (-n, true) else (n, false)
        | none => (1000000000, false)
      let (p1, p2) : Int × Int :=
        if p1 < 0 then
          let p1 := p1 + len
          if p1 < 0 then (0, max 0 (p2 + p1)) else (p1, p2)
        else if p1 > 0 then (p1 - 1, p2)
        else if p2 > 0 then (p1, p2 - 1)
        else (p1, p2)
      let (p1, p2) : Int × Int :=
        if negP2 then
          let p1 := p1 - p2
          if p1 < 0 then (0, p2 + p1) else (p1, p2)
        else (p1, p2)
      let taken := (units.drop p1.toNat).take p2.toNat
      if isBlob then .blob taken.flatten else .text taken.flatten

/-- `unhex(x [, ignored])`: the bytes hexadecimal digits stand for; NULL
when a character is neither a digit pair nor one of the ignored ones. -/
def unhexValue (args : List SqlValue) : SqlValue :=
  let pass : Option (List Nat) := match args with
    | [_, y] => y.textBytes?.map codePoints
    | _ => some []
  match args.head?.bind (·.textBytes?), pass with
  | some hex, some pass =>
    let isHex (b : UInt8) : Bool :=
      isDigitByte b || (0x41 ≤ b && b ≤ 0x46) || (0x61 ≤ b && b ≤ 0x66)
    let rec go (z : Bytes) (acc : Array UInt8) : Nat → Option (Array UInt8)
      | 0 => some acc
      | fuel + 1 =>
        match z with
        | [] => some acc
        | 0 :: _ => some acc
        | c :: rest =>
          if isHex c then
            match rest with
            | d :: more => if isHex d then go more (acc.push (UInt8.ofNat (hexOf c * 16 + hexOf d))) fuel else none
            | [] => none
          else
            match readLenient z with
            | some (ch, more) => if pass.contains ch then go more acc fuel else none
            | none => some acc
    match go hex #[] (hex.length + 1) with
    | some out => .blob out.toList
    | none => .null
  | _, _ => .null

/-- `unicode(x)`: the code point of the first character. -/
def unicodeValue (v : SqlValue) : SqlValue :=
  match v.textBytes? with
  | some bs =>
    match readLenient (untilNul bs) with
    | some (c, _) => .integer c
    | none => .null
  | none => .null

/-- Calls a scalar function that depends only on its arguments, by its
lower-case name. -/
def scalarFunction (name : String) (args : List SqlValue) (coll : Collation) :
    Except String SqlValue :=
  let arg (i : Nat) : SqlValue := args.getD i .null
  match name with
  | "abs" => absValue (arg 0)
  | "char" => .ok (charValue args)
  | "coalesce" | "ifnull" => .ok ((args.find? (!·.isNull)).getD .null)
  | "concat" => .ok (concatWith [] args)
  | "concat_ws" =>
    match arg 0 with
    | .null => .ok .null
    | sep => .ok (concatWith sep.textBytes args.tail)
  | "format" | "printf" =>
    match args with
    | f :: rest =>
      match f.textBytes? with
      | some fmt => .ok (.text (formatBytes fmt rest.toArray))
      | none => .ok .null
    | [] => .ok .null
  | "glob" => patternFunction true args
  | "like" => patternFunction false args
  | "hex" => .ok (.text (hexBytes (arg 0).textBytes))
  | "iif" => .ok (if (arg 0).truthOr false then arg 1 else arg 2)
  | "instr" => .ok (instrValue (arg 0) (arg 1))
  | "length" => .ok (lengthValue (arg 0))
  | "octet_length" =>
    match arg 0 with
    | .null => .ok .null
    | v => .ok (.integer v.textBytes.length)
  | "likely" | "unlikely" | "likelihood" => .ok (arg 0)
  | "lower" => .ok ((arg 0).textBytes?.map (fun b => SqlValue.text (lowerBytes b)) |>.getD .null)
  | "upper" => .ok ((arg 0).textBytes?.map (fun b => SqlValue.text (upperBytes b)) |>.getD .null)
  | "ltrim" => .ok (trimValue true false args)
  | "rtrim" => .ok (trimValue false true args)
  | "trim" => .ok (trimValue true true args)
  | "max" => .ok (extremeValue true coll args)
  | "min" => .ok (extremeValue false coll args)
  | "nullif" => .ok (if (arg 0).compareWith coll (arg 1) != .eq then arg 0 else .null)
  | "quote" => .ok (quoteValue (arg 0))
  | "replace" => .ok (replaceValue (arg 0) (arg 1) (arg 2))
  | "round" => .ok (roundValue args)
  | "sign" => .ok (signValue (arg 0))
  | "soundex" => .ok (soundexValue (arg 0))
  | "sqlite_version" => .ok (.ofString "3.46.0")
  | "sqlite_source_id" =>
    .ok (.ofString "2024-05-23 13:25:27 96c92aba00c8375bc32fafcdf12429c58bd8aabfcadab6683e35bbb9cdebf19e")
  | "substr" | "substring" => .ok (substrValue args)
  | "typeof" => .ok (.ofString (arg 0).typeName)
  | "subtype" => .ok (.integer 0)
  | "unhex" => .ok (unhexValue args)
  | "unicode" => .ok (unicodeValue (arg 0))
  | "zeroblob" =>
    let n := (arg 0).intValue
    if n > 1000000000 then .error "string or blob too big"
    else .ok (.blob (List.replicate (max 0 n).toNat 0))
  -- loading extensions is not switched on for the connection
  | "load_extension" => .error "not authorized"
  | "sqlite_compileoption_used" => .ok (.integer 0)
  | "sqlite_compileoption_get" => .ok .null
  | _ =>
    match mathFunction name args with
    | some v => .ok v
    | none => .error ("no such function: " ++ name)

end ReportExport.Sql
