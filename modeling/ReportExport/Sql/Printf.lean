import ReportExport.Sql.Affinity

/-!
# Formatted printing

The `printf` and `format` functions write their arguments into a format
string. A conversion is `%`, then flags (`-` left-justify, `+` or blank
before a positive number, `#` alternate form, `!` alternate precision, `0`
zero padding, `,` thousands separators), a width (digits or `*`), a precision
(`.` and digits or `*`), an optional `l` or `ll`, and a conversion letter:

* `d`, `i`, `u` integers in decimal, `x`, `X`, `o` in hexadecimal and octal,
  `p` like `X`, `r` an ordinal (`1st`);
* `f`, `e`, `E`, `g`, `G` doubles (see `Sql.Digits`);
* `s` and `z` text, `c` one character repeated precision times;
* `q`, `Q`, `w` text with quotes doubled, `Q` enclosed in quotes and `NULL`
  for NULL;
* `%` itself, and `n`, which writes nothing.

An argument that is missing reads as zero, as an empty text or as NULL. An
unknown conversion letter ends the output where it stands. Widths and
precisions count bytes, or characters with `!` for text.
-/

namespace ReportExport.Sql

open Text

/-- The flags, width and precision of one conversion. -/
structure Spec where
  leftJustify : Bool := false
  /-- the character before a non-negative number, if any -/
  signPrefix : Option UInt8 := none
  alternate : Bool := false
  altform2 : Bool := false
  zeroPad : Bool := false
  thousands : Bool := false
  width : Nat := 0
  precision : Option Nat := none
  deriving Inhabited

/-- The arguments of a format and how many have been taken. -/
structure FormatArgs where
  values : Array SqlValue
  used : Nat := 0

namespace FormatArgs

/-- The next argument, if any is left. -/
def next (a : FormatArgs) : Option SqlValue × FormatArgs :=
  match a.values[a.used]? with
  | some v => (some v, { a with used := a.used + 1 })
  | none => (none, a)

/-- The next argument as an integer, zero when missing. -/
def nextInt (a : FormatArgs) : Int × FormatArgs :=
  let (v, a) := a.next
  ((v.map SqlValue.intValue).getD 0, a)

/-- The next argument as a double, zero when missing. -/
def nextReal (a : FormatArgs) : Float × FormatArgs :=
  let (v, a) := a.next
  ((v.map SqlValue.realValue).getD 0.0, a)

/-- The next argument as a terminated text, none when missing or NULL. -/
def nextText (a : FormatArgs) : Option Bytes × FormatArgs :=
  let (v, a) := a.next
  ((v.bind SqlValue.textBytes?).map untilNul, a)

end FormatArgs

/-- The conversion letters and what they do. -/
inductive Conversion where
  | decimal (signed : Bool)
  | radix (base : Nat) (upper : Bool) (prefixText : List UInt8)
  | pointer
  | ordinal
  | real (c : RealConversion) (upper : Bool)
  | string
  | char
  | escape (quote : UInt8) (enclose : Bool)
  | size
  | percent
  deriving Inhabited

/-- The conversion of a letter, if it is one. -/
def conversionOf (c : UInt8) : Option Conversion :=
  match c.toNat with
  | 0x64 | 0x69 => some (.decimal true)   -- d i
  | 0x75 => some (.decimal false)         -- u
  | 0x78 => some (.radix 16 false [0x30, 0x78])   -- x
  | 0x58 => some (.radix 16 true [0x30, 0x58])    -- X
  | 0x6f => some (.radix 8 false [0x30])          -- o
  | 0x70 => some .pointer                  -- p
  | 0x72 => some .ordinal                  -- r
  | 0x66 => some (.real .fixed false)      -- f
  | 0x65 => some (.real .scientific false) -- e
  | 0x45 => some (.real .scientific true)  -- E
  | 0x67 => some (.real .general false)    -- g
  | 0x47 => some (.real .general true)     -- G
  | 0x73 | 0x7a => some .string            -- s z
  | 0x63 => some .char                     -- c
  | 0x71 => some (.escape 0x27 false)      -- q
  | 0x51 => some (.escape 0x27 true)       -- Q
  | 0x77 => some (.escape 0x22 false)      -- w
  | 0x6e => some .size                     -- n
  | 0x25 => some .percent                  -- %
  | _ => none

/-- The digits of a natural number in a base, most significant first. -/
def digitsIn (base : Nat) (upper : Bool) (n : Nat) : List UInt8 :=
  let digit (d : Nat) : UInt8 :=
    UInt8.ofNat (if d < 10 then 48 + d else (if upper then 55 else 87) + d)
  let rec go (n : Nat) (acc : List UInt8) : Nat → List UInt8
    | 0 => acc
    | fuel + 1 =>
      let acc := digit (n % base) :: acc
      if n / base == 0 then acc else go (n / base) acc fuel
  go n [] (n + 1)

/-- Inserts a comma between groups of three digits, counting from the end. -/
def groupThousands (ds : List UInt8) : List UInt8 :=
  let n := ds.length
  (ds.zipIdx.flatMap fun (d, i) =>
    let after := n - 1 - i
    if after > 0 && after % 3 == 0 then [d, 0x2c] else [d])

/-- A 64-bit integer read as a 32-bit one, two's complement. -/
def wrap32 (i : Int) : Int := (i + 2147483648) % 4294967296 - 2147483648

/-- The bytes of an integer conversion (before padding to the width). -/
def formatInteger (s : Spec) (conv : Conversion) (v : Int) : List UInt8 :=
  let signedOf (thousands : Bool) : Nat × Option UInt8 × Bool :=
    if v < 0 then (v.natAbs, some 0x2d, thousands) else (v.toNat, s.signPrefix, thousands)
  let (magnitude, sign, thousands) : Nat × Option UInt8 × Bool := match conv with
    | .decimal true => signedOf s.thousands
    | .ordinal => signedOf false
    | .decimal false => ((v % 18446744073709551616).toNat, none, s.thousands)
    | _ => ((v % 18446744073709551616).toNat, none, false)
  let alternate := s.alternate && magnitude != 0
  let precision : Nat := s.precision.getD 0
  let precision := if s.zeroPad && precision + (if sign.isSome then 1 else 0) < s.width
    then s.width - (if sign.isSome then 1 else 0) else precision
  let (base, upper, prefixText) : Nat × Bool × List UInt8 := match conv with
    | .radix b u p => (b, u, p)
    | .pointer => (16, true, [0x30, 0x78])
    | _ => (10, true, [])
  let suffix : List UInt8 := match conv with
    | .ordinal =>
      let x := magnitude % 10
      let x := if x ≥ 4 || (magnitude / 10) % 10 == 1 then 0 else x
      match x with
      | 1 => [0x73, 0x74]
      | 2 => [0x6e, 0x64]
      | 3 => [0x72, 0x64]
      | _ => [0x74, 0x68]
    | _ => []
  let ds := digitsIn base upper magnitude
  let ds := List.replicate (precision - (ds.length + suffix.length)) 0x30 ++ ds
  let ds := if thousands then groupThousands ds else ds
  let signed := (match sign with | some c => [c] | none => []) ++ ds ++ suffix
  if alternate && !prefixText.isEmpty then prefixText ++ signed else signed

/-- The bytes of a double conversion (before padding to the width). -/
def formatDouble (s : Spec) (c : RealConversion) (upper : Bool) (r : Float) : List UInt8 :=
  let f : RealFormat := {
    conversion := c, precision := some (s.precision.getD 6), upperCase := upper,
    alternate := s.alternate, extended := s.altform2,
    signPrefix := s.signPrefix.map (fun b => Char.ofNat b.toNat),
    zeroPad := s.zeroPad, leftJustify := s.leftJustify, width := s.width,
    thousands := s.thousands }
  bytesOf (formatReal f r)

/-- How many continuation bytes a text has: what a width in characters adds
to a width in bytes. -/
def continuationCount (bs : List UInt8) : Nat := (bs.filter isContinuation).length

/-- The first `n` characters of a text, as bytes. -/
def takeCharacters (n : Nat) (bs : Bytes) : Bytes := ((characters bs).take n).flatten

/-- Pads a conversion's bytes with blanks to the width. -/
def padTo (s : Spec) (width : Nat) (body : List UInt8) : List UInt8 :=
  if body.length < width then
    let pad := List.replicate (width - body.length) (0x20 : UInt8)
    if s.leftJustify then body ++ pad else pad ++ body
  else body

/-- The bytes of a text escaped for `%q`, `%Q` or `%w`: at most `precision`
bytes (or characters with `!`) of it, the quote character doubled. -/
def escapeText (s : Spec) (quote : UInt8) (enclose : Bool) (text : Option Bytes) : List UInt8 :=
  let body := match text with
    | some t => t
    | none => bytesOf (if enclose then "NULL" else "(NULL)")
  let body := match s.precision with
    | some p => if s.altform2 then takeCharacters p body else body.take p
    | none => body
  let escaped := body.flatMap fun b => if b == quote then [b, b] else [b]
  if enclose && text.isSome then quote :: escaped ++ [quote] else escaped

/-- Reads the digits at a position: their value and the position after them. -/
def readDigitsAt (fmt : Array UInt8) (pos : Nat) : Nat × Nat :=
  let rec go (acc pos : Nat) : Nat → Nat × Nat
    | 0 => (acc, pos)
    | fuel + 1 =>
      match fmt[pos]? with
      | some b => if isDigitByte b then go ((acc * 10 + digitOf b) % 2147483648) (pos + 1) fuel else (acc, pos)
      | none => (acc, pos)
  go 0 pos (fmt.size + 1)

/-- The byte at a position, NUL past the end. -/
def byteAt (fmt : Array UInt8) (pos : Nat) : UInt8 := fmt[pos]?.getD 0

/-- Reads the flags, width and precision of a conversion whose first byte
after `%` is at `pos`: the spec, the arguments left, and the position of the
conversion letter. -/
def readSpec (fmt : Array UInt8) (args : FormatArgs) (pos : Nat) : Spec × FormatArgs × Nat :=
  let rec go (s : Spec) (args : FormatArgs) (pos : Nat) : Nat → Spec × FormatArgs × Nat
    | 0 => (s, args, pos)
    | fuel + 1 =>
      let c := byteAt fmt pos
      -- continues with the next byte unless it ends the string
      let continue_ (s : Spec) (args : FormatArgs) : Spec × FormatArgs × Nat :=
        if byteAt fmt (pos + 1) == 0 then (s, args, pos + 1) else go s args (pos + 1) fuel
      match c.toNat with
      | 0x2d => continue_ { s with leftJustify := true } args
      | 0x2b => continue_ { s with signPrefix := some 0x2b } args
      | 0x20 => continue_ { s with signPrefix := some 0x20 } args
      | 0x23 => continue_ { s with alternate := true } args
      | 0x21 => continue_ { s with altform2 := true } args
      | 0x30 => continue_ { s with zeroPad := true } args
      | 0x2c => continue_ { s with thousands := true } args
      | 0x6c =>
        let pos := pos + 1
        let pos := if byteAt fmt pos == 0x6c then pos + 1 else pos
        (s, args, pos)
      | 0x2a =>
        let (w, args) := args.nextInt
        let w : Int := wrap32 w
        let s := if w < 0 then { s with leftJustify := true, width := if w ≥ -2147483647 then (-w).toNat else 0 }
          else { s with width := w.toNat }
        let n := byteAt fmt (pos + 1)
        if n != 0x2e && n != 0x6c then (s, args, pos + 1)
        else go s args (pos + 1) fuel
      | 0x2e =>
        let pos := pos + 1
        if byteAt fmt pos == 0x2a then
          let (p, args) := args.nextInt
          let p : Int := wrap32 p
          let precision : Option Nat :=
            if p < 0 then (if p ≥ -2147483647 then some (-p).toNat else none) else some p.toNat
          let s := { s with precision }
          let pos := pos + 1
          if byteAt fmt pos == 0x6c then go s args pos fuel else (s, args, pos)
        else
          let (p, pos) := readDigitsAt fmt pos
          let s := { s with precision := some p }
          if byteAt fmt pos == 0x6c then go s args pos fuel else (s, args, pos)
      | _ =>
        if isDigitByte c then
          let (w, after) := readDigitsAt fmt pos
          let s := { s with width := w }
          let n := byteAt fmt after
          if n != 0x2e && n != 0x6c then (s, args, after)
          else go s args after fuel
        else (s, args, pos)
  go {} args pos (fmt.size + 1)

/-- Writes the arguments into a format: the bytes written, up to an unknown
conversion if there is one. -/
def formatBytes (format : Bytes) (values : Array SqlValue) : Bytes :=
  let fmt := format.toArray
  let rec go (args : FormatArgs) (pos : Nat) (out : Array UInt8) : Nat → Array UInt8
    | 0 => out
    | fuel + 1 =>
      match fmt[pos]? with
      | none => out
      | some c =>
        if c != 0x25 then go args (pos + 1) (out.push c) fuel
        else if byteAt fmt (pos + 1) == 0 then out.push 0x25
        else
          let (s, args, at_) := readSpec fmt args (pos + 1)
          match conversionOf (byteAt fmt at_) with
          | none => out
          | some conv =>
            let (body, args, s) : List UInt8 × FormatArgs × Spec := match conv with
              | .decimal _ | .radix .. | .pointer | .ordinal =>
                let (v, args) := args.nextInt
                (formatInteger s conv v, args, s)
              | .real c upper =>
                let (r, args) := args.nextReal
                (formatDouble s c upper r, args, s)
              | .string =>
                let (t, args) := args.nextText
                let t := t.getD []
                let t := match s.precision with
                  | some p => if s.altform2 then takeCharacters p t else t.take p
                  | none => t
                let s := if s.altform2 then { s with width := s.width + continuationCount t } else s
                (t, args, s)
              | .char =>
                let (t, args) := args.nextText
                let ch : List UInt8 := match t with
                  | some (b :: rest) =>
                    if b &&& 0xc0 == 0xc0 then b :: (rest.takeWhile isContinuation).take 3 else [b]
                  | _ => [0]
                let p := s.precision.getD 0
                let spaces (n : Int) : List UInt8 := List.replicate n.toNat 0x20
                -- all copies but the last, with the padding before them
                let (lead, w) : List UInt8 × Int :=
                  if p > 1 then
                    let w : Int := (s.width : Int) - (p - 1)
                    if w > 1 && !s.leftJustify then (spaces (w - 1) ++ (List.replicate (p - 1) ch).flatten, 0)
                    else ((List.replicate (p - 1) ch).flatten, w)
                  else ([], s.width)
                let w := (if w > 0 then w + continuationCount ch else w) - ch.length
                let last := if w > 0 then (if s.leftJustify then ch ++ spaces w else spaces w ++ ch) else ch
                (lead ++ last, args, { s with width := 0 })
              | .escape q enclose =>
                let (t, args) := args.nextText
                let e := escapeText s q enclose t
                let s := if s.altform2 then { s with width := s.width + continuationCount e } else s
                (e, args, s)
              | .size => ([], args, { s with width := 0 })
              | .percent => ([0x25], args, s)
            go args (at_ + 1) (out ++ (padTo s s.width body).toArray) fuel
  (go { values } 0 #[] (fmt.size + 1)).toList

end ReportExport.Sql
