import ReportExport.Sql.Affinity

/-!
# JSON values as the engine holds them

A JSON value is held the way the engine's binary form holds it: every number
and string keeps the bytes it was written with, tagged by how those bytes
are to be read. A number is a decimal integer, a hexadecimal integer, a
decimal with a point or exponent, or a decimal missing a digit beside its
point; a string's bytes hold no escapes, JSON escapes, JSON5 escapes, or are
the text itself, to be escaped when written out.

Reading JSON text accepts JSON5 as well (comments, unquoted labels, single
quotes, hexadecimal numbers, trailing commas, `Infinity` and `NaN`) and
notes whether any of it was used. Writing a value out gives canonical,
minified JSON: hexadecimal numbers in decimal, missing digits supplied,
JSON5 escapes turned into JSON ones.

The binary form of a value is a header (its kind and the size of its
payload) followed by the payload; the offset of a value in the binary form of
the whole is the identifier `json_each` and `json_tree` report.
-/

namespace ReportExport.Sql

open Text

/-! ## Values -/

/-- How the bytes of a number are written. -/
inductive NumberForm where
  /-- a decimal integer -/
  | integer
  /-- a hexadecimal integer -/
  | hex
  /-- a decimal with a point or an exponent -/
  | decimal
  /-- a decimal with no digit on one side of its point -/
  | loose
  deriving DecidableEq, Inhabited

/-- How the bytes of a string stand for its text. -/
inductive StringForm where
  /-- the text itself, with no escapes -/
  | plain
  /-- with JSON escapes -/
  | escaped
  /-- with JSON5 escapes or raw control characters -/
  | loose
  /-- the text itself, escaped when written out -/
  | raw
  deriving DecidableEq, Inhabited

/-- The label of an object member. -/
structure JsonLabel where
  form : StringForm
  text : Bytes
  deriving Inhabited

/-- A JSON value. -/
inductive JsonNode where
  | null
  | bool (b : Bool)
  | number (form : NumberForm) (text : Bytes)
  | string (form : StringForm) (text : Bytes)
  | array (items : List JsonNode)
  | object (members : List (JsonLabel × JsonNode))
  deriving Inhabited

namespace JsonNode

/-- Whether the value is an array or an object. -/
def isContainer : JsonNode → Bool
  | .array _ | .object _ => true
  | _ => false

/-- The kind code of the binary form. -/
def code : JsonNode → Nat
  | .null => 0
  | .bool true => 1
  | .bool false => 2
  | .number .integer _ => 3
  | .number .hex _ => 4
  | .number .decimal _ => 5
  | .number .loose _ => 6
  | .string .plain _ => 7
  | .string .escaped _ => 8
  | .string .loose _ => 9
  | .string .raw _ => 10
  | .array _ => 11
  | .object _ => 12

/-- The name `json_type` gives a value. -/
def typeName : JsonNode → String
  | .null => "null"
  | .bool true => "true"
  | .bool false => "false"
  | .number .integer _ | .number .hex _ => "integer"
  | .number _ _ => "real"
  | .string _ _ => "text"
  | .array _ => "array"
  | .object _ => "object"

end JsonNode

/-- The kind code of a label's string form. -/
def StringForm.code : StringForm → Nat
  | .plain => 7
  | .escaped => 8
  | .loose => 9
  | .raw => 10

/-! ## Bytes of JSON text -/

/-- Byte `i` of a text, zero past its end (a text ends at its first NUL). -/
def textByte (z : Array UInt8) (i : Nat) : UInt8 := z.getD i 0

/-- JSON white space. -/
def isJsonSpace (b : UInt8) : Bool := b == 0x20 || b == 0x09 || b == 0x0a || b == 0x0d

/-- An ASCII letter. -/
def isAsciiLetter (b : UInt8) : Bool := (0x41 ≤ b && b ≤ 0x5a) || (0x61 ≤ b && b ≤ 0x7a)

/-- An ASCII letter or digit. -/
def isAlnumByte (b : UInt8) : Bool := isAsciiLetter b || isDigitByte b

/-- A byte that may start an unquoted label: a letter, `_`, `$`, or a byte of
a character beyond ASCII. -/
def isLabelStart (b : UInt8) : Bool := isAsciiLetter b || b == 0x5f || b == 0x24 || b ≥ 0x80

/-- A byte that may continue an unquoted label. -/
def isLabelPart (b : UInt8) : Bool := isLabelStart b || isDigitByte b

/-- Whether the bytes from `i` match a word, ignoring ASCII case. -/
def matchesWord (z : Array UInt8) (i : Nat) (word : String) : Bool :=
  (bytesOf word).zipIdx.all fun (w, k) => lowerByte (textByte z (i + k)) == lowerByte w

/-- Whether four bytes from `i` are hexadecimal digits. -/
def isHex4 (z : Array UInt8) (i : Nat) : Bool := (List.range 4).all fun k => isHexByte (textByte z (i + k))

/-- The length of the JSON5 white space and comments starting at `i`. -/
def json5SpaceLength (z : Array UInt8) (i : Nat) : Nat :=
  let rec go (n : Nat) : Nat → Nat
    | 0 => n
    | fuel + 1 =>
      let b := textByte z n
      let b1 := textByte z (n + 1)
      let b2 := textByte z (n + 2)
      if b == 0x09 || b == 0x0a || b == 0x0b || b == 0x0c || b == 0x0d || b == 0x20 then go (n + 1) fuel
      else if b == 0x2f then
        if b1 == 0x2a && b2 != 0 then
          -- a block comment: up to the first "*/" after its opening
          let rec close (j : Nat) : Nat → Option Nat
            | 0 => none
            | f + 1 =>
              if textByte z j == 0x2f && textByte z (j - 1) == 0x2a then some (j + 1)
              else if textByte z j == 0 then none
              else close (j + 1) f
          match close (n + 3) z.size with
          | some e => go e fuel
          | none => n
        else if b1 == 0x2f then
          -- a line comment: up to and including the end of the line
          let rec finish (j : Nat) : Nat → Nat
            | 0 => j
            | f + 1 =>
              let c := textByte z j
              if c == 0 then j
              else if c == 0x0a || c == 0x0d then j + 1
              else if c == 0xe2 && textByte z (j + 1) == 0x80 &&
                  (textByte z (j + 2) == 0xa8 || textByte z (j + 2) == 0xa9) then j + 3
              else finish (j + 1) f
          go (finish (n + 2) z.size) fuel
        else n
      else if b == 0xc2 && b1 == 0xa0 then go (n + 2) fuel
      else if b == 0xe1 && b1 == 0x9a && b2 == 0x80 then go (n + 3) fuel
      else if b == 0xe2 && b1 == 0x80 && b2 ≥ 0x80 &&
          (b2 ≤ 0x8a || b2 == 0xa8 || b2 == 0xa9 || b2 == 0xaf) then go (n + 3) fuel
      else if b == 0xe2 && b1 == 0x81 && b2 == 0x9f then go (n + 3) fuel
      else if b == 0xe3 && b1 == 0x80 && b2 == 0x80 then go (n + 3) fuel
      else if b == 0xef && b1 == 0xbb && b2 == 0xbf then go (n + 3) fuel
      else n
  go i (z.size + 1) - i

/-- The bytes of a text from `i` up to `j`. -/
def slice (z : Array UInt8) (i j : Nat) : Bytes := (z.extract i j).toList

/-! ## Reading JSON text -/

/-- What reading at a position found: a value and the position after it, the
end of the text, an error at a position, or a mark that ends a list (`}`,
`]`, `,` or `:`, at its position). -/
inductive JsonScan where
  | value (node : JsonNode) (next : Nat)
  | finish
  | error (pos : Nat)
  | closeObject (pos : Nat)
  | closeArray (pos : Nat)
  | comma (pos : Nat)
  | colon (pos : Nat)

/-- What reading keeps track of: whether JSON5 was used, and the position the
last error or end mark was seen at. -/
structure ScanState where
  nonstandard : Bool := false
  errorAt : Nat := 0

/-- Reading JSON text. -/
abbrev JsonReader := StateM ScanState

/-- Notes that JSON5 was used. -/
def markNonstandard : JsonReader Unit := modify fun s => { s with nonstandard := true }

/-- Notes the position of an error or end mark. -/
def markAt (i : Nat) : JsonReader Unit := modify fun s => { s with errorAt := i }

/-- An error at a position. -/
def failAt (i : Nat) : JsonReader JsonScan := do
  markAt i
  return .error i

/-- The deepest nesting of arrays and objects. -/
def maxJsonDepth : Nat := 1000

/-- Reads a string from its opening quote at `i` (a double or a single
quote). -/
def readJsonString (z : Array UInt8) (i : Nat) : JsonReader JsonScan := do
  let delim := textByte z i
  if delim == 0x27 then markNonstandard
  let rec go (j : Nat) (form : StringForm) : Nat → JsonReader JsonScan
    | 0 => failAt j
    | fuel + 1 => do
      let c := textByte z j
      if c == delim then
        return .value (.string form (slice z (i + 1) j)) (j + 1)
      else if c == 0x5c then
        let e := textByte z (j + 1)
        if e == 0x22 || e == 0x5c || e == 0x2f || e == 0x62 || e == 0x66 || e == 0x6e ||
            e == 0x72 || e == 0x74 || (e == 0x75 && isHex4 z (j + 2)) then
          go (j + 2) (if form == .plain then .escaped else form) fuel
        else if e == 0x27 || e == 0x30 || e == 0x76 || e == 0x0a ||
            (e == 0xe2 && textByte z (j + 2) == 0x80 && (textByte z (j + 3) == 0xa8 || textByte z (j + 3) == 0xa9)) ||
            (e == 0x78 && isHexByte (textByte z (j + 2)) && isHexByte (textByte z (j + 3))) then do
          markNonstandard
          go (j + 2) .loose fuel
        else if e == 0x0d then do
          markNonstandard
          go (if textByte z (j + 2) == 0x0a then j + 3 else j + 2) .loose fuel
        else failAt (j + 1)
      else if c < 0x20 then
        if c == 0 then failAt j
        else do
          markNonstandard
          go (j + 1) .loose fuel
      else if c == 0x22 then go (j + 1) .loose fuel
      else go (j + 1) form fuel
  go (i + 1) .plain (z.size + 1)

/-- Reads a number starting at `i`: a sign, digits, or a point followed by a
digit. -/
def readJsonNumber (z : Array UInt8) (i : Nat) : JsonReader JsonScan := do
  let c := textByte z i
  let finishAt (j : Nat) (form : NumberForm) : JsonReader JsonScan :=
    let start := if textByte z i == 0x2b then i + 1 else i
    pure (.value (.number form (slice z start j)) j)
  let hexEnd (j : Nat) : Nat := j + ((z.extract j z.size).toList.takeWhile isHexByte).length
  -- the digits, point and exponent after the first byte
  let rec rest (j : Nat) (isReal seenE loose : Bool) : Nat → JsonReader JsonScan
    | 0 => failAt j
    | fuel + 1 => do
      let d := textByte z j
      if isDigitByte d then rest (j + 1) isReal seenE loose fuel
      else if d == 0x2e then
        if isReal then failAt j else rest (j + 1) true seenE loose fuel
      else if d == 0x65 || d == 0x45 then
        let prev := textByte z (j - 1)
        let loose' ← if prev < 0x30 then
            if prev == 0x2e && j ≥ i + 2 && isDigitByte (textByte z (j - 2)) then do
              markNonstandard
              pure (some true)
            else pure none
          else pure (some loose)
        match loose' with
        | none => failAt j
        | some loose =>
          if seenE then failAt j
          else
            let j' := if textByte z (j + 1) == 0x2b || textByte z (j + 1) == 0x2d then j + 1 else j
            if !isDigitByte (textByte z (j' + 1)) then failAt j'
            else rest (j' + 1) true true loose fuel
      else
        let prev := textByte z (j - 1)
        if prev < 0x30 then
          if prev == 0x2e && j ≥ i + 2 && isDigitByte (textByte z (j - 2)) then do
            markNonstandard
            finishAt j .loose
          else failAt j
        else finishAt j (if loose then .loose else if isReal then .decimal else .integer)
  let c1 := textByte z (i + 1)
  if c == 0x2e then
    if isDigitByte c1 then do
      markNonstandard
      rest (i + 1) true false true (z.size + 1)
    else failAt i
  else if c == 0x30 then
    if (c1 == 0x78 || c1 == 0x58) && isHexByte (textByte z (i + 2)) then do
      markNonstandard
      finishAt (hexEnd (i + 3)) .hex
    else if isDigitByte c1 then failAt (i + 1)
    else rest (i + 1) false false false (z.size + 1)
  else if c == 0x2d || c == 0x2b then do
    if c == 0x2b then markNonstandard
    if !isDigitByte c1 then
      if (c1 == 0x49 || c1 == 0x69) && matchesWord z (i + 1) "inf" then do
        markNonstandard
        let node := JsonNode.number .decimal (bytesOf (if c == 0x2d then "-9e999" else "9e999"))
        return .value node (i + (if matchesWord z (i + 4) "inity" then 9 else 4))
      else if c1 == 0x2e then do
        markNonstandard
        rest (i + 1) false false true (z.size + 1)
      else failAt i
    else if c1 == 0x30 then
      let c2 := textByte z (i + 2)
      if isDigitByte c2 then failAt (i + 1)
      else if (c2 == 0x78 || c2 == 0x58) && isHexByte (textByte z (i + 3)) then do
        markNonstandard
        finishAt (hexEnd (i + 4)) .hex
      else rest (i + 1) false false false (z.size + 1)
    else rest (i + 1) false false false (z.size + 1)
  else rest (i + 1) false false false (z.size + 1)

/-- The names of infinity and not-a-number that are read as values: the
first letters, the name, and whether it is infinity (else NULL). -/
def specialNames : List (String × Bool) :=
  [("inf", true), ("infinity", true), ("nan", false), ("qnan", false), ("snan", false)]

/-- Reads an unquoted label at `j`: its form and end, if one starts there. -/
def readBareLabel (z : Array UInt8) (j : Nat) : Option (StringForm × Nat) :=
  let escapeAt (k : Nat) : Bool := textByte z k == 0x5c && textByte z (k + 1) == 0x75 && isHex4 z (k + 2)
  if isLabelStart (textByte z j) || escapeAt j then
    let rec go (k : Nat) (form : StringForm) : Nat → StringForm × Nat
      | 0 => (form, k)
      | fuel + 1 =>
        if isLabelPart (textByte z k) && json5SpaceLength z k == 0 then go (k + 1) form fuel
        else if escapeAt k then go (k + 1) .escaped fuel
        else (form, k)
    let form := if escapeAt j then StringForm.escaped else .plain
    some (go (j + 1) form (z.size + 1))
  else none

/-- Skips JSON white space from `i`. -/
def skipJsonSpace (z : Array UInt8) (i : Nat) : Nat :=
  i + ((z.extract i z.size).toList.takeWhile isJsonSpace).length

mutual

/-- Reads the value starting at or after `i` (white space first), `depth`
arrays and objects deep. -/
def readJsonValue (z : Array UInt8) : Nat → Nat → Nat → JsonReader JsonScan
  | 0, _, i => failAt i
  | fuel + 1, depth, i => do
    let c := textByte z i
    if c == 0x7b then
      if depth + 1 > maxJsonDepth then failAt i
      else readMembers z fuel (depth + 1) (i + 1) #[]
    else if c == 0x5b then
      if depth + 1 > maxJsonDepth then failAt i
      else readItems z fuel (depth + 1) (i + 1) #[]
    else if c == 0x22 || c == 0x27 then readJsonString z i
    else if c == 0x74 then
      if matchesWord z i "true" && !isAlnumByte (textByte z (i + 4)) then return .value (.bool true) (i + 4)
      else failAt i
    else if c == 0x66 then
      if matchesWord z i "false" && !isAlnumByte (textByte z (i + 5)) then return .value (.bool false) (i + 5)
      else failAt i
    else if c == 0x2b || c == 0x2e || c == 0x2d || isDigitByte c then readJsonNumber z i
    else if c == 0x7d then do markAt i; return .closeObject i
    else if c == 0x5d then do markAt i; return .closeArray i
    else if c == 0x2c then do markAt i; return .comma i
    else if c == 0x3a then do markAt i; return .colon i
    else if c == 0 then return .finish
    else if isJsonSpace c then readJsonValue z fuel depth (skipJsonSpace z i)
    else if c == 0x0b || c == 0x0c || c == 0x2f || c == 0xc2 || c == 0xe1 || c == 0xe2 || c == 0xe3 ||
        c == 0xef then
      let n := json5SpaceLength z i
      if n > 0 then do
        markNonstandard
        readJsonValue z fuel depth (i + n)
      else failAt i
    else if c == 0x6e && matchesWord z i "null" && !isAlnumByte (textByte z (i + 4)) then
      return .value .null (i + 4)
    else
      match specialNames.find? (fun (name, _) =>
          matchesWord z i name && !isAlnumByte (textByte z (i + name.length))) with
      | some (name, infinite) => do
        markNonstandard
        return .value (if infinite then .number .decimal (bytesOf "9e999") else .null) (i + name.length)
      | none => failAt i

/-- Reads the members of an object after its opening brace (or a comma):
`j` is where the next label may start. -/
def readMembers (z : Array UInt8) : Nat → Nat → Nat → Array (JsonLabel × JsonNode) → JsonReader JsonScan
  | 0, _, j, _ => failAt j
  | fuel + 1, depth, j, acc => do
    let x ← readJsonValue z fuel depth j
    let labelled : Sum JsonScan (Option (JsonLabel × Nat)) ← match x with
      | .value (.string form text) next => pure (.inr (some ({ form, text }, next)))
      | .value _ _ => do markAt j; pure (.inr none)
      | .closeObject pos => do
        if !acc.isEmpty then markNonstandard
        pure (.inl (.value (.object acc.toList) (pos + 1)))
      | _ =>
        let j' := j + json5SpaceLength z j
        match readBareLabel z j' with
        | some (form, k) => do
          markNonstandard
          pure (.inr (some ({ form, text := slice z j' k }, k)))
        | none => do
          match x with
          | .error _ => pure ()
          | _ => markAt j'
          pure (.inr none)
    match labelled with
    | .inl done => return done
    | .inr none => return .error (← get).errorAt
    | .inr (some (label, afterLabel)) =>
      -- the colon
      let valueAt ← if textByte z afterLabel == 0x3a then pure (some (afterLabel + 1))
        else
          let k := skipJsonSpace z afterLabel
          if k > afterLabel && textByte z k == 0x3a then pure (some (k + 1))
          else do
            match ← readJsonValue z fuel depth k with
            | .colon pos => pure (some (pos + 1))
            | .error _ => pure none
            | _ => do markAt k; pure none
      match valueAt with
      | none => return .error (← get).errorAt
      | some v => do
        match ← readJsonValue z fuel depth v with
        | .value node next =>
          let acc := acc.push (label, node)
          let c := textByte z next
          if c == 0x2c then readMembers z fuel depth (next + 1) acc
          else if c == 0x7d then return .value (.object acc.toList) (next + 1)
          else
            let k := skipJsonSpace z next
            if k > next && textByte z k == 0x2c then readMembers z fuel depth (k + 1) acc
            else if k > next && textByte z k == 0x7d then return .value (.object acc.toList) (k + 1)
            else
              match ← readJsonValue z fuel depth k with
              | .comma pos => readMembers z fuel depth (pos + 1) acc
              | .closeObject pos => return .value (.object acc.toList) (pos + 1)
              | _ => failAt k
        | .error pos => return .error pos
        | _ => failAt v

/-- Reads the items of an array after its opening bracket (or a comma). -/
def readItems (z : Array UInt8) : Nat → Nat → Nat → Array JsonNode → JsonReader JsonScan
  | 0, _, j, _ => failAt j
  | fuel + 1, depth, j, acc => do
    match ← readJsonValue z fuel depth j with
    | .value node next =>
      let acc := acc.push node
      let c := textByte z next
      if c == 0x2c then readItems z fuel depth (next + 1) acc
      else if c == 0x5d then return .value (.array acc.toList) (next + 1)
      else
        let k := skipJsonSpace z next
        if k > next && textByte z k == 0x2c then readItems z fuel depth (k + 1) acc
        else if k > next && textByte z k == 0x5d then return .value (.array acc.toList) (k + 1)
        else
          match ← readJsonValue z fuel depth k with
          | .comma pos => readItems z fuel depth (pos + 1) acc
          | .closeArray pos => return .value (.array acc.toList) (pos + 1)
          | _ => failAt k
    | .closeArray pos => do
      if !acc.isEmpty then markNonstandard
      return .value (.array acc.toList) (pos + 1)
    | .error pos => return .error pos
    | _ => failAt j

end

/-- The result of reading a whole JSON text: the value and whether JSON5 was
used, or the byte position the error was noted at. -/
def readJsonText (text : Bytes) : Except Nat (JsonNode × Bool) :=
  let z := (untilNul text).toArray
  let (x, st) := (readJsonValue z (4 * z.size + 8) 0 0).run {}
  match x with
  | .value node next =>
    let k := skipJsonSpace z next
    if textByte z k == 0 then .ok (node, st.nonstandard)
    else
      let k' := k + json5SpaceLength z k
      if textByte z k' == 0 then .ok (node, true) else .error st.errorAt
  | _ => .error st.errorAt

/-- Parses JSON text (JSON5 accepted). -/
def JsonNode.parse? (text : Bytes) : Option JsonNode :=
  match readJsonText text with
  | .ok (n, _) => some n
  | .error _ => none

/-! ## Writing JSON text -/

/-- Lower-case hexadecimal digits. -/
def hexDigitsLower : List UInt8 := bytesOf "0123456789abcdef"

/-- A control character as a JSON escape. -/
def controlEscape (c : UInt8) : Bytes :=
  match c with
  | 0x08 => bytesOf "\\b"
  | 0x09 => bytesOf "\\t"
  | 0x0a => bytesOf "\\n"
  | 0x0c => bytesOf "\\f"
  | 0x0d => bytesOf "\\r"
  | _ => bytesOf "\\u00" ++ [hexDigitsLower.getD (c.toNat / 16) 0, hexDigitsLower.getD (c.toNat % 16) 0]

/-- The JSON string body for a text: quotes, backslashes and control
characters escaped. -/
def escapeJsonText (bs : Bytes) : Bytes :=
  bs.flatMap fun c =>
    if c == 0x22 then [0x5c, 0x22]
    else if c == 0x5c then [0x5c, 0x5c]
    else if c < 0x20 then controlEscape c
    else [c]

/-- The canonical JSON string body for the bytes of a string with JSON5
escapes. -/
def looseToJson (bs : Bytes) : Bytes :=
  let rec go (bs : Bytes) (acc : Array UInt8) : Nat → Array UInt8
    | 0 => acc
    | fuel + 1 =>
      match bs with
      | [] => acc
      | 0x22 :: rest => go rest (acc ++ #[0x5c, 0x22]) fuel
      | 0x5c :: c :: rest =>
        match c with
        | 0x27 => go rest (acc.push 0x27) fuel
        | 0x76 => go rest (acc ++ (bytesOf "\\u0009").toArray) fuel
        | 0x78 =>
          match rest with
          | h1 :: h2 :: more => go more (acc ++ (bytesOf "\\u00").toArray ++ #[h1, h2]) fuel
          | _ => go [] acc fuel
        | 0x30 => go rest (acc ++ (bytesOf "\\u0000").toArray) fuel
        | 0x0d =>
          match rest with
          | 0x0a :: more => go more acc fuel
          | _ => go rest acc fuel
        | 0x0a => go rest acc fuel
        | 0xe2 =>
          match rest with
          | _ :: _ :: more => go more acc fuel
          | _ => go [] acc fuel
        | c => go rest (acc ++ #[0x5c, c]) fuel
      | c :: rest =>
        if c < 0x20 then go rest (acc ++ (controlEscape c).toArray) fuel
        else go rest (acc.push c) fuel
  (go bs #[] (bs.length + 1)).toList

/-- The JSON string body of a string's bytes in their form. -/
def stringBody (form : StringForm) (text : Bytes) : Bytes :=
  match form with
  | .plain | .escaped => text
  | .loose => looseToJson text
  | .raw => escapeJsonText text

/-- The canonical text of a hexadecimal integer: decimal, or `9.0e999` when
it is too large. -/
def hexToDecimal (text : Bytes) : Bytes :=
  let (sign, digits) := match text with
    | 0x2d :: rest => ([(0x2d : UInt8)], rest.drop 2)
    | 0x2b :: rest => ([], rest.drop 2)
    | rest => ([], rest.drop 2)
  let digits := digits.takeWhile isHexByte
  let (value, overflow) := digits.foldl (fun (u, o) d =>
    if o || u ≥ Nat.pow 2 60 then (u, true) else (u * 16 + hexOf d, false)) (0, false)
  sign ++ (if overflow then bytesOf "9.0e999" else bytesOf (toString value))

/-- The canonical text of a decimal missing a digit beside its point. -/
def looseToDecimal (text : Bytes) : Bytes :=
  let (sign, body) := match text with
    | 0x2d :: rest => ([(0x2d : UInt8)], rest)
    | rest => ([], rest)
  let body := if body.headD 0 == 0x2e then 0x30 :: body else body
  let rec go : Bytes → Bytes
    | [] => []
    | 0x2e :: rest =>
      if rest.isEmpty || !isDigitByte (rest.headD 0) then 0x2e :: 0x30 :: go rest else 0x2e :: go rest
    | c :: rest => c :: go rest
  sign ++ go body

/-- The canonical text of a number. -/
def numberText (form : NumberForm) (text : Bytes) : Bytes :=
  match form with
  | .integer | .decimal => text
  | .hex => hexToDecimal text
  | .loose => looseToDecimal text

/-- A label as JSON text. -/
def JsonLabel.render (l : JsonLabel) : Bytes := [0x22] ++ stringBody l.form l.text ++ [0x22]

/-- Joins parts with a separator. -/
def joinWith (sep : Bytes) : List Bytes → Bytes
  | [] => []
  | p :: ps => ps.foldl (fun acc x => acc ++ sep ++ x) p

namespace JsonNode

/-- The minified canonical text of a value, nested at most `fuel` deep. -/
def renderUpTo : Nat → JsonNode → Bytes
  | 0, _ => []
  | _ + 1, .null => bytesOf "null"
  | _ + 1, .bool true => bytesOf "true"
  | _ + 1, .bool false => bytesOf "false"
  | _ + 1, .number form t => numberText form t
  | _ + 1, .string form t => [0x22] ++ stringBody form t ++ [0x22]
  | fuel + 1, .array items => [0x5b] ++ joinWith [0x2c] (items.map (renderUpTo fuel)) ++ [0x5d]
  | fuel + 1, .object members =>
    [0x7b] ++ joinWith [0x2c] (members.map fun (l, v) => l.render ++ [0x3a] ++ renderUpTo fuel v) ++ [0x7d]

/-- The minified canonical text of a value. -/
def render (n : JsonNode) : Bytes := renderUpTo (maxJsonDepth + 2) n

/-- The text of a value laid out one item to a line, each level indented by
`indent` once more. -/
def prettyUpTo (indent : Bytes) : Nat → Nat → JsonNode → Bytes
  | 0, _, _ => []
  | fuel + 1, level, n =>
    let pad (k : Nat) : Bytes := (List.replicate k indent).flatten
    match n with
    | .array [] => bytesOf "[]"
    | .object [] => bytesOf "{}"
    | .array items =>
      [0x5b, 0x0a] ++
        joinWith [0x2c, 0x0a] (items.map fun v => pad (level + 1) ++ prettyUpTo indent fuel (level + 1) v) ++
        [0x0a] ++ pad level ++ [0x5d]
    | .object members =>
      [0x7b, 0x0a] ++
        joinWith [0x2c, 0x0a] (members.map fun (l, v) =>
          pad (level + 1) ++ l.render ++ [0x3a, 0x20] ++ prettyUpTo indent fuel (level + 1) v) ++
        [0x0a] ++ pad level ++ [0x7d]
    | n => n.render

/-- The text of a value laid out for reading. -/
def pretty (indent : Bytes) (n : JsonNode) : Bytes := prettyUpTo indent (maxJsonDepth + 2) 0 n

end JsonNode

/-! ## The text of a string -/

/-- The code point of four hexadecimal digits. -/
def hex4Value (bs : Bytes) : Nat := (bs.take 4).foldl (fun n d => n * 16 + hexOf d) 0

/-- The bytes a code point is written with; an invalid one is left out. -/
def pointBytes (v : Nat) : Bytes :=
  if v < 0x80 then [UInt8.ofNat v]
  else if v < 0x800 then [UInt8.ofNat (0xc0 + v / 64), UInt8.ofNat (0x80 + v % 64)]
  else if v < 0x10000 then
    [UInt8.ofNat (0xe0 + v / 4096), UInt8.ofNat (0x80 + (v / 64) % 64), UInt8.ofNat (0x80 + v % 64)]
  else encodePoint v

/-- The text a string's escapes stand for. -/
def unescapeJson (raw : Bytes) : Bytes :=
  let rec go (bs : Bytes) (acc : Array UInt8) : Nat → Array UInt8
    | 0 => acc
    | fuel + 1 =>
      match bs with
      | [] => acc
      | 0x5c :: c :: rest =>
        match c with
        | 0x75 =>
          if rest.length < 4 then acc
          else
            let v := hex4Value rest
            let more := rest.drop 4
            match more with
            | 0x5c :: 0x75 :: lo =>
              let w := hex4Value lo
              if v / 1024 == 0xd800 / 1024 && lo.length ≥ 4 && w / 1024 == 0xdc00 / 1024 then
                go (lo.drop 4) (acc ++ (pointBytes ((v % 1024) * 1024 + w % 1024 + 0x10000)).toArray) fuel
              else go more (acc ++ (pointBytes v).toArray) fuel
            | _ => go more (acc ++ (pointBytes v).toArray) fuel
        | 0x62 => go rest (acc.push 0x08) fuel
        | 0x66 => go rest (acc.push 0x0c) fuel
        | 0x6e => go rest (acc.push 0x0a) fuel
        | 0x72 => go rest (acc.push 0x0d) fuel
        | 0x74 => go rest (acc.push 0x09) fuel
        | 0x76 => go rest (acc.push 0x0b) fuel
        | 0x30 => go rest (acc.push 0x00) fuel
        | 0x27 | 0x22 | 0x2f | 0x5c => go rest (acc.push c) fuel
        | 0x78 =>
          match rest with
          | h1 :: h2 :: more => go more (acc ++ (pointBytes (hexOf h1 * 16 + hexOf h2)).toArray) fuel
          | _ => acc
        | 0x0d =>
          match rest with
          | 0x0a :: more => go more acc fuel
          | _ => go rest acc fuel
        | 0x0a => go rest acc fuel
        | 0xe2 =>
          match rest with
          | _ :: _ :: more => go more acc fuel
          | _ => acc
        | _ => go rest acc fuel
      | c :: rest => go rest (acc.push c) fuel
  (go raw #[] (raw.length + 1)).toList

/-- The text of a string in its form. -/
def stringText (form : StringForm) (text : Bytes) : Bytes :=
  match form with
  | .plain | .raw => text
  | .escaped | .loose => unescapeJson text

/-- The text of a label. -/
def JsonLabel.value (l : JsonLabel) : Bytes := stringText l.form l.text

/-! ## The binary form -/

/-- The size of the header for a payload of `n` bytes. -/
def headerSize (n : Nat) : Nat :=
  if n ≤ 11 then 1 else if n ≤ 0xff then 2 else if n ≤ 0xffff then 3
  else if n ≤ 0xffffffff then 5 else 9

/-- The header of a kind code and payload size. -/
def headerBytes (code n : Nat) : Bytes :=
  let big (k : Nat) : Bytes := (List.range k).reverse.map fun j => UInt8.ofNat ((n / Nat.pow 256 j) % 256)
  if n ≤ 11 then [UInt8.ofNat (n * 16 + code)]
  else if n ≤ 0xff then [UInt8.ofNat (0xc0 + code)] ++ big 1
  else if n ≤ 0xffff then [UInt8.ofNat (0xd0 + code)] ++ big 2
  else if n ≤ 0xffffffff then [UInt8.ofNat (0xe0 + code)] ++ big 4
  else [UInt8.ofNat (0xf0 + code)] ++ big 8

namespace JsonNode

/-- The size of a value's payload in the binary form, nested at most `fuel`
deep. -/
def payloadUpTo : Nat → JsonNode → Nat
  | 0, _ => 0
  | fuel + 1, n =>
    match n with
    | .null | .bool _ => 0
    | .number _ t | .string _ t => t.length
    | .array items => (items.map fun v => let p := payloadUpTo fuel v; headerSize p + p).sum
    | .object members =>
      (members.map fun (l, v) =>
        headerSize l.text.length + l.text.length + (let p := payloadUpTo fuel v; headerSize p + p)).sum

/-- The size of a value's payload in the binary form. -/
def payloadSize (n : JsonNode) : Nat := payloadUpTo (maxJsonDepth + 2) n

/-- The size of a value's header in the binary form. -/
def headerLength (n : JsonNode) : Nat := headerSize n.payloadSize

/-- The size of a value's binary form. -/
def size (n : JsonNode) : Nat := n.headerLength + n.payloadSize

/-- The binary form of a value, nested at most `fuel` deep. -/
def encodeUpTo : Nat → JsonNode → Bytes
  | 0, _ => []
  | fuel + 1, n =>
    let payload : Bytes := match n with
      | .null | .bool _ => []
      | .number _ t => t
      | .string _ t => t
      | .array items => (items.map (encodeUpTo fuel)).flatten
      | .object members =>
        (members.map fun (l, v) => headerBytes l.form.code l.text.length ++ l.text ++ encodeUpTo fuel v).flatten
    headerBytes n.code payload.length ++ payload

/-- The binary form of a value. -/
def encode (n : JsonNode) : Bytes := encodeUpTo (maxJsonDepth + 2) n

end JsonNode

/-- Reads a header at `i`: the kind code, the header size and the payload
size, when the payload fits in the `limit`. -/
def readHeader (b : Array UInt8) (i limit : Nat) : Option (Nat × Nat × Nat) :=
  let x := (textByte b i).toNat
  let code := x % 16
  let size := x / 16
  let wide (k : Nat) : Nat := (List.range k).foldl (fun acc j => acc * 256 + (textByte b (i + 1 + j)).toNat) 0
  let (n, sz) :=
    if size ≤ 11 then (1, size)
    else if size == 12 then (2, wide 1)
    else if size == 13 then (3, wide 2)
    else if size == 14 then (5, wide 4)
    else (9, wide 8)
  if i + n > limit || i + n + sz > limit then none else some (code, n, sz)

/-- The string form of a kind code. -/
def stringFormOf? : Nat → Option StringForm
  | 7 => some .plain
  | 8 => some .escaped
  | 9 => some .loose
  | 10 => some .raw
  | _ => none

mutual

/-- Reads the value at `i` of a binary form, its payload ending by `limit`:
the value and the position after it. -/
def decodeAt (b : Array UInt8) : Nat → Nat → Nat → Option (JsonNode × Nat)
  | 0, _, _ => none
  | fuel + 1, i, limit => do
    let (code, n, sz) ← readHeader b i limit
    let start := i + n
    let stop := start + sz
    let payload := slice b start stop
    let node ← match code with
      | 0 => some .null
      | 1 => some (.bool true)
      | 2 => some (.bool false)
      | 3 => some (.number .integer payload)
      | 4 => some (.number .hex payload)
      | 5 => some (.number .decimal payload)
      | 6 => some (.number .loose payload)
      | 7 | 8 | 9 | 10 => (stringFormOf? code).map fun f => .string f payload
      | 11 => (decodeItems b fuel start stop #[]).map .array
      | 12 => (decodeMembers b fuel start stop #[]).map .object
      | _ => none
    pure (node, stop)

/-- Reads the values from `j` up to `stop` of a binary form. -/
def decodeItems (b : Array UInt8) : Nat → Nat → Nat → Array JsonNode → Option (List JsonNode)
  | 0, _, _, _ => none
  | fuel + 1, j, stop, acc =>
    if j ≥ stop then some acc.toList
    else do
      let (v, next) ← decodeAt b fuel j stop
      decodeItems b fuel next stop (acc.push v)

/-- Reads the labels and values from `j` up to `stop` of a binary form. -/
def decodeMembers (b : Array UInt8) : Nat → Nat → Nat → Array (JsonLabel × JsonNode) →
    Option (List (JsonLabel × JsonNode))
  | 0, _, _, _ => none
  | fuel + 1, j, stop, acc =>
    if j ≥ stop then some acc.toList
    else do
      let (lcode, ln, lsz) ← readHeader b j stop
      let form ← stringFormOf? lcode
      let (v, next) ← decodeAt b fuel (j + ln + lsz) stop
      decodeMembers b fuel next stop (acc.push ({ form, text := slice b (j + ln) (j + ln + lsz) }, v))

end

/-- Whether a blob looks like the binary form of a value: a known kind whose
payload fills the blob exactly. -/
def looksBinary (bs : Bytes) : Bool :=
  let b := bs.toArray
  if b.isEmpty then false
  else match readHeader b 0 b.size with
    | some (code, n, sz) => code ≤ 12 && n + sz == b.size && (code > 2 || sz == 0)
    | none => false

/-- Reads the binary form of a value. -/
def JsonNode.decode? (bs : Bytes) : Option JsonNode :=
  let b := bs.toArray
  match decodeAt b (2 * b.size + 2) 0 b.size with
  | some (n, next) => if next == b.size then some n else none
  | none => none

end ReportExport.Sql
