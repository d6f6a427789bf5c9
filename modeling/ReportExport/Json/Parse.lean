import ReportExport.Json.Basic

/-!
# Reading JSON text

The reader works on the UTF-8 bytes of the text. Integers that fit a 64-bit
word stay integers; other numbers become doubles by multiplying or dividing the
integer significand by a power of ten held as a double, one rounding per
operation (so `2.5e-308` reads as the double after `2.5e-308`). A repeated
object key keeps its first place and its last value.

A syntax error carries the byte offset its position is counted from; the
position is a line number and the count of bytes since the last line break.
Next to each value the reader returns its `Span`, the byte range it came from,
so that a later decoding error can point into the text.
-/

namespace ReportExport.JsonText

/-- What made a text unreadable as JSON. -/
inductive Fault where
  | eofValue | eofList | eofObject | eofString
  | expectedColon | expectedListCommaOrEnd | expectedObjectCommaOrEnd
  | expectedIdent | expectedValue | invalidEscape | invalidNumber | numberOutOfRange
  | controlCharacter | keyMustBeString | loneLeadingSurrogate | unexpectedEndOfHexEscape
  | trailingComma | trailingCharacters | recursionLimit
  deriving Repr, DecidableEq

/-- The wording of a fault. -/
def Fault.message : Fault → String
  | .eofValue => "EOF while parsing a value"
  | .eofList => "EOF while parsing a list"
  | .eofObject => "EOF while parsing an object"
  | .eofString => "EOF while parsing a string"
  | .expectedColon => "expected `:`"
  | .expectedListCommaOrEnd => "expected `,` or `]`"
  | .expectedObjectCommaOrEnd => "expected `,` or `\x7d`"
  | .expectedIdent => "expected ident"
  | .expectedValue => "expected value"
  | .invalidEscape => "invalid escape"
  | .invalidNumber => "invalid number"
  | .numberOutOfRange => "number out of range"
  | .controlCharacter => "control character (\\u0000-\\u001F) found while parsing a string"
  | .keyMustBeString => "key must be a string"
  | .loneLeadingSurrogate => "lone leading surrogate in hex escape"
  | .unexpectedEndOfHexEscape => "unexpected end of hex escape"
  | .trailingComma => "trailing comma"
  | .trailingCharacters => "trailing characters"
  | .recursionLimit => "recursion limit exceeded"

/-- A fault and the byte offset its position is counted from. -/
structure SyntaxError where
  fault : Fault
  offset : Nat
  deriving Repr

/-- A line and a column, both as the text's reader counts them. -/
structure Position where
  line : Nat
  column : Nat
  deriving Repr, DecidableEq

/-- The position of a byte offset: one plus the line breaks before it, and the
bytes since the last of them. -/
def positionOf (bytes : List UInt8) (offset : Nat) : Position :=
  (bytes.take offset).foldl
    (fun p b => if b = 10 then ⟨p.line + 1, 0⟩ else ⟨p.line, p.column + 1⟩) ⟨1, 0⟩

/-- The suffix that a message gets when it has a position. -/
def Position.suffix (p : Position) : String :=
  " at line " ++ toString p.line ++ " column " ++ toString p.column

/-- The byte range a value was read from, with the ranges of its items or
member values and, for an object, the byte after each member's key. -/
inductive Span where
  | mk (start stop : Nat) (children : List Span) (keyEnds : List Nat)
  deriving Inhabited

/-- First byte of the value. -/
def Span.start : Span → Nat
  | .mk s _ _ _ => s

/-- The byte after the value. -/
def Span.stop : Span → Nat
  | .mk _ e _ _ => e

/-- Item or member spans. -/
def Span.children : Span → List Span
  | .mk _ _ cs _ => cs

/-- The byte after each member's key, for an object. -/
def Span.keyEnds : Span → List Nat
  | .mk _ _ _ ks => ks

/-- The reader's view of the text: its bytes, kept as an array for lookup. -/
structure Source where
  bytes : ByteArray

namespace Source

/-- The byte at an offset, if the text is that long. -/
def at? (src : Source) (i : Nat) : Option UInt8 :=
  if h : i < src.bytes.size then some src.bytes[i] else none

/-- Number of bytes. -/
def size (src : Source) : Nat := src.bytes.size

/-- An error whose position is the offset itself. -/
def fail {α : Type} (_src : Source) (fault : Fault) (offset : Nat) : Except SyntaxError α :=
  .error ⟨fault, offset⟩

/-- An error whose position is just past the byte at the offset. -/
def failPeek {α : Type} (src : Source) (fault : Fault) (offset : Nat) : Except SyntaxError α :=
  .error ⟨fault, min src.size (offset + 1)⟩

/-- Skips blanks: space, line feed, tab and carriage return. -/
def skipBlanks (src : Source) (i : Nat) : Nat :=
  go i (src.size - i)
where
  go (i : Nat) : Nat → Nat
    | 0 => i
    | fuel + 1 =>
      match src.at? i with
      | some 32 | some 10 | some 9 | some 13 => go (i + 1) fuel
      | _ => i

/-- Whether a byte is an ASCII digit. -/
def isDigit (b : UInt8) : Bool := 48 ≤ b && b ≤ 57

/-- The digit's value. -/
def digitOf (b : UInt8) : Nat := b.toNat - 48

/-- Checks the rest of a keyword, byte by byte. -/
def expectWord (src : Source) (i : Nat) : List UInt8 → Except SyntaxError Nat
  | [] => .ok i
  | w :: ws =>
    match src.at? i with
    | none => src.fail .eofValue i
    | some b => if b = w then expectWord src (i + 1) ws else src.fail .expectedIdent (i + 1)

end Source

/-- Largest value of a 64-bit unsigned word. -/
def maxWord : Nat := Nat.pow 2 64 - 1

/-- Whether `acc * 10 + d` would exceed `limit`. -/
def overflows (acc d limit : Nat) : Bool :=
  acc ≥ limit / 10 && (acc > limit / 10 || d > limit % 10)

/-- Clamps an integer to the signed 32-bit range. -/
def clamp32 (i : Int) : Int := max (-2147483648) (min 2147483647 i)

/-- The double nearest to `10 ^ k`. -/
def pow10 (k : Nat) : Float := Decimal.nearest false (Nat.pow 10 k) 1

/-- Builds a double from a significand and a decimal exponent by one
conversion and powers of ten held as doubles; `none` when the value overflows. -/
def floatFromParts (positive : Bool) (significand : Nat) (exponent : Int) : Option Float :=
  let start := Decimal.nearest false significand 1
  let rec go (f : Float) (e : Int) : Nat → Option Float
    | 0 => some f
    | fuel + 1 =>
      if e.natAbs ≤ 308 then
        if e ≥ 0 then
          let g := f * pow10 e.natAbs
          if g.isInf then none else some g
        else some (f / pow10 e.natAbs)
      else if f == 0.0 then some f
      else if e ≥ 0 then none
      else go (f / pow10 308) (e + 308) fuel
  (go start exponent (exponent.natAbs / 308 + 2)).map (fun f => if positive then f else -f)

/-- The number with a finished significand and exponent: a double, or a
syntax error when it is out of range. -/
def finishFloat (src : Source) (positive : Bool) (significand : Nat) (exponent : Int) (i : Nat) :
    Except SyntaxError (Number × Nat) :=
  match floatFromParts positive significand exponent with
  | some f => .ok (.float f, i)
  | none => src.fail .numberOutOfRange i

/-- Skips digits. -/
def skipDigits (src : Source) (i : Nat) : Nat :=
  go i (src.size - i)
where
  go (i : Nat) : Nat → Nat
    | 0 => i
    | fuel + 1 =>
      match src.at? i with
      | some b => if Source.isDigit b then go (i + 1) fuel else i
      | none => i

/-- Reads an exponent after `e`/`E` at offset `i` (pointing at the mark). -/
def readExponent (src : Source) (positive : Bool) (significand : Nat) (start : Int) (i : Nat) :
    Except SyntaxError (Number × Nat) :=
  let i := i + 1
  let (positiveExp, i) :=
    match src.at? i with
    | some 43 => (true, i + 1)
    | some 45 => (false, i + 1)
    | _ => (true, i)
  match src.at? i with
  | none => src.fail .eofValue i
  | some b =>
    if !Source.isDigit b then src.fail .invalidNumber (i + 1) else
    let rec go (exp : Nat) (j : Nat) : Nat → Except SyntaxError (Number × Nat)
      | 0 => .ok (.float 0.0, j)
      | fuel + 1 =>
        match src.at? j with
        | some c =>
          if Source.isDigit c then
            if overflows exp (Source.digitOf c) 2147483647 then
              -- an exponent beyond 32 bits: zero, or out of range when growing
              if significand ≠ 0 && positiveExp then src.fail .numberOutOfRange (j + 1)
              else .ok (.float (if positive then 0.0 else -0.0), skipDigits src j)
            else go (exp * 10 + Source.digitOf c) (j + 1) fuel
          else
            let e := if positiveExp then clamp32 (start + exp) else clamp32 (start - exp)
            finishFloat src positive significand e j
        | none =>
          let e := if positiveExp then clamp32 (start + exp) else clamp32 (start - exp)
          finishFloat src positive significand e j
    go (Source.digitOf b) (i + 1) (src.size - i)

/-- Reads the fraction after the point at offset `i` (pointing at `.`). -/
def readFraction (src : Source) (positive : Bool) (significand : Nat) (before : Int) (i : Nat) :
    Except SyntaxError (Number × Nat) :=
  let rec go (sig : Nat) (after : Int) (j : Nat) : Nat → Except SyntaxError (Number × Nat)
    | 0 => .ok (.float 0.0, j)
    | fuel + 1 =>
      match src.at? j with
      | some c =>
        if Source.isDigit c then
          if overflows sig (Source.digitOf c) maxWord then
            -- further digits cannot change the significand
            let k := skipDigits src j
            match src.at? k with
            | some 101 | some 69 => readExponent src positive sig (before + after) k
            | _ => finishFloat src positive sig (before + after) k
          else go (sig * 10 + Source.digitOf c) (after - 1) (j + 1) fuel
        else if after = 0 then src.failPeek .invalidNumber j
        else if c = 101 || c = 69 then readExponent src positive sig (before + after) j
        else finishFloat src positive sig (before + after) j
      | none =>
        if after = 0 then src.failPeek .eofValue j
        else finishFloat src positive sig (before + after) j
  go significand 0 (i + 1) (src.size - i)

/-- After the integer digits: a fraction, an exponent, or the integer itself. -/
def readAfterInteger (src : Source) (positive : Bool) (significand : Nat) (i : Nat) :
    Except SyntaxError (Number × Nat) :=
  match src.at? i with
  | some 46 => readFraction src positive significand 0 i
  | some 101 | some 69 => readExponent src positive significand 0 i
  | _ =>
    if positive then .ok (.int significand, i)
    else if significand = 0 || significand > Nat.pow 2 63 then
      .ok (.float (-(Decimal.nearest false significand 1)), i)
    else .ok (.int (-(significand : Int)), i)

/-- Reads a number whose sign is already consumed; `i` is the first digit. -/
def readNumber (src : Source) (positive : Bool) (i : Nat) : Except SyntaxError (Number × Nat) :=
  match src.at? i with
  | none => src.fail .eofValue i
  | some 48 =>
    match src.at? (i + 1) with
    | some c => if Source.isDigit c then src.failPeek .invalidNumber (i + 1)
                else readAfterInteger src positive 0 (i + 1)
    | none => readAfterInteger src positive 0 (i + 1)
  | some b =>
    if !Source.isDigit b then src.fail .invalidNumber (i + 1) else
    let rec go (sig : Nat) (j : Nat) : Nat → Except SyntaxError (Number × Nat)
      | 0 => .ok (.int sig, j)
      | fuel + 1 =>
        match src.at? j with
        | some c =>
          if Source.isDigit c then
            if overflows sig (Source.digitOf c) maxWord then
              -- too long for a word: the remaining digits only scale it
              let k := skipDigits src j
              let extra : Int := k - j
              match src.at? k with
              | some 46 => readFraction src positive sig extra k
              | some 101 | some 69 => readExponent src positive sig extra k
              | _ => finishFloat src positive sig extra k
            else go (sig * 10 + Source.digitOf c) (j + 1) fuel
          else readAfterInteger src positive sig j
        | none => readAfterInteger src positive sig j
    go (Source.digitOf b) (i + 1) (src.size - i)

/-- Value of a hexadecimal digit. -/
def hexValue (b : UInt8) : Option Nat :=
  if 48 ≤ b && b ≤ 57 then some (b.toNat - 48)
  else if 65 ≤ b && b ≤ 70 then some (b.toNat - 55)
  else if 97 ≤ b && b ≤ 102 then some (b.toNat - 87)
  else none

/-- Reads four hexadecimal digits at `i`. -/
def readHex4 (src : Source) (i : Nat) : Except SyntaxError (Nat × Nat) :=
  if i + 4 > src.size then src.fail .eofString src.size else
  let digits := [i, i + 1, i + 2, i + 3].map (fun k => (src.at? k).bind hexValue)
  match digits with
  | [some a, some b, some c, some d] => .ok (((a * 16 + b) * 16 + c) * 16 + d, i + 4)
  | _ => src.fail .invalidEscape (i + 4)

/-- UTF-8 bytes of a code point. -/
def utf8Of (n : Nat) : List UInt8 := (String.singleton (Char.ofNat n)).toUTF8.toList

/-- Reads the escape after a backslash at `i` (pointing after the backslash);
returns the bytes it stands for. -/
def readEscape (src : Source) (i : Nat) : Except SyntaxError (List UInt8 × Nat) :=
  match src.at? i with
  | none => src.fail .eofString i
  | some 34 => .ok ([34], i + 1)
  | some 92 => .ok ([92], i + 1)
  | some 47 => .ok ([47], i + 1)
  | some 98 => .ok ([8], i + 1)
  | some 102 => .ok ([12], i + 1)
  | some 110 => .ok ([10], i + 1)
  | some 114 => .ok ([13], i + 1)
  | some 116 => .ok ([9], i + 1)
  | some 117 => do
    let (n, j) ← readHex4 src (i + 1)
    if 0xDC00 ≤ n && n ≤ 0xDFFF then src.fail .loneLeadingSurrogate j
    else if n < 0xD800 || n > 0xDBFF then .ok (utf8Of n, j)
    else
      -- a leading surrogate needs a trailing one right after it
      match src.at? j with
      | none => src.fail .eofString j
      | some 92 =>
        match src.at? (j + 1) with
        | none => src.fail .eofString (j + 1)
        | some 117 => do
          let (n2, k) ← readHex4 src (j + 2)
          if n2 < 0xDC00 || n2 > 0xDFFF then src.fail .loneLeadingSurrogate k
          else .ok (utf8Of ((n - 0xD800) * 1024 + (n2 - 0xDC00) + 0x10000), k)
        | some _ => src.fail .unexpectedEndOfHexEscape (j + 2)
      | some _ => src.fail .unexpectedEndOfHexEscape (j + 1)
  | some _ => src.fail .invalidEscape (i + 1)

/-- Reads a string body at `i` (after the opening quote) up to its closing quote. -/
def readString (src : Source) (i : Nat) : Except SyntaxError (String × Nat) :=
  let rec go (acc : Array UInt8) (j : Nat) : Nat → Except SyntaxError (String × Nat)
    | 0 => src.fail .eofString src.size
    | fuel + 1 =>
      match src.at? j with
      | none => src.fail .eofString j
      | some 34 =>
        match String.fromUTF8? (ByteArray.mk acc) with
        | some s => .ok (s, j + 1)
        | none => src.fail .invalidEscape j
      | some 92 =>
        match readEscape src (j + 1) with
        | .ok (bytes, k) => go (acc ++ bytes.toArray) k fuel
        | .error e => .error e
      | some b =>
        if b < 32 then src.fail .controlCharacter (j + 1)
        else go (acc.push b) (j + 1) fuel
  go #[] i (src.size - i + 1)

/-- How deep containers may nest. -/
def depthLimit : Nat := 128

mutual
/-- Reads one value after blanks; `depth` counts the open containers left. -/
def readValue (src : Source) (depth : Nat) (i : Nat) : Nat → Except SyntaxError (Json × Span × Nat)
  | 0 => src.failPeek .recursionLimit i
  | fuel + 1 =>
    let i := src.skipBlanks i
    match src.at? i with
    | none => src.failPeek .eofValue i
    | some 110 => do
      let j ← src.expectWord (i + 1) [117, 108, 108]
      .ok (.null, .mk i j [] [], j)
    | some 116 => do
      let j ← src.expectWord (i + 1) [114, 117, 101]
      .ok (.bool true, .mk i j [] [], j)
    | some 102 => do
      let j ← src.expectWord (i + 1) [97, 108, 115, 101]
      .ok (.bool false, .mk i j [] [], j)
    | some 45 => do
      let (n, j) ← readNumber src false (i + 1)
      .ok (.num n, .mk i j [] [], j)
    | some 34 => do
      let (s, j) ← readString src (i + 1)
      .ok (.str s, .mk i j [] [], j)
    | some 91 =>
      if depth ≤ 1 then src.failPeek .recursionLimit i else do
      let (items, spans, j) ← readItems src (depth - 1) true [] [] (i + 1) fuel
      .ok (.arr items, .mk i j spans [], j)
    | some 123 =>
      if depth ≤ 1 then src.failPeek .recursionLimit i else do
      let (members, j) ← readMembers src (depth - 1) true [] (i + 1) fuel
      .ok (.obj (members.map (fun (k, v, _) => (k, v))), .mk i j (members.map (fun (_, _, s, _) => s))
        (members.map (fun (_, _, _, e) => e)), j)
    | some b =>
      if Source.isDigit b then do
        let (n, j) ← readNumber src true i
        .ok (.num n, .mk i j [] [], j)
      else src.failPeek .expectedValue i

/-- Reads array items up to the closing bracket. -/
def readItems (src : Source) (depth : Nat) (first : Bool) (items : List Json) (spans : List Span)
    (i : Nat) : Nat → Except SyntaxError (List Json × List Span × Nat)
  | 0 => src.failPeek .recursionLimit i
  | fuel + 1 =>
    let i := src.skipBlanks i
    match src.at? i with
    | some 93 => .ok (items.reverse, spans.reverse, i + 1)
    | none => src.failPeek .eofList i
    | some b =>
      let next : Except SyntaxError Nat :=
        if b = 44 && !first then .ok (src.skipBlanks (i + 1))
        else if first then .ok i
        else src.failPeek .expectedListCommaOrEnd i
      match next with
      | .error e => .error e
      | .ok k =>
        match src.at? k with
        | some 93 => src.failPeek .trailingComma k
        | none => src.failPeek .eofValue k
        | some _ =>
          match readValue src depth k fuel with
          | .error e => .error e
          | .ok (v, s, j) => readItems src depth false (v :: items) (s :: spans) j fuel

/-- Reads object members up to the closing brace, each with its value's span
and the byte after its key; a repeated key is kept as written. -/
def readMembers (src : Source) (depth : Nat) (first : Bool)
    (members : List (String × Json × Span × Nat)) (i : Nat) :
    Nat → Except SyntaxError (List (String × Json × Span × Nat) × Nat)
  | 0 => src.failPeek .recursionLimit i
  | fuel + 1 =>
    let i := src.skipBlanks i
    match src.at? i with
    | some 125 => .ok (members.reverse, i + 1)
    | none => src.failPeek .eofObject i
    | some b =>
      let next : Except SyntaxError Nat :=
        if b = 44 && !first then .ok (src.skipBlanks (i + 1))
        else if first then .ok i
        else src.failPeek .expectedObjectCommaOrEnd i
      match next with
      | .error e => .error e
      | .ok k =>
        match src.at? k with
        | some 34 =>
          match readString src (k + 1) with
          | .error e => .error e
          | .ok (key, j) =>
            let c := src.skipBlanks j
            match src.at? c with
            | some 58 =>
              match readValue src depth (c + 1) fuel with
              | .error e => .error e
              | .ok (v, s, e) => readMembers src depth false ((key, v, s, j) :: members) e fuel
            | some _ => src.failPeek .expectedColon c
            | none => src.failPeek .eofObject c
        | some 125 => src.failPeek .trailingComma k
        | some _ => src.failPeek .keyMustBeString k
        | none => src.failPeek .eofValue k
end

/-- Reads a whole text as one JSON value with its span; only blanks may follow.
Objects keep every member as written, repeated keys included. -/
def readSpanned (text : String) : Except SyntaxError (Json × Span) := do
  let src : Source := ⟨text.toUTF8⟩
  let (v, s, j) ← readValue src depthLimit 0 (src.size + 2)
  let k := src.skipBlanks j
  if k < src.size then src.failPeek .trailingCharacters k else .ok (v, s)

/-- The message of a syntax error in a text, with its position. -/
def SyntaxError.render (text : String) (e : SyntaxError) : String :=
  e.fault.message ++ (positionOf text.toUTF8.toList e.offset).suffix

/-- Reads a whole text as one JSON value, or gives the error message; a
repeated key keeps its first place and its last value. -/
def read (text : String) : Except String Json :=
  match readSpanned text with
  | .ok (v, _) => .ok v.merged
  | .error e => .error (e.render text)

end ReportExport.JsonText
