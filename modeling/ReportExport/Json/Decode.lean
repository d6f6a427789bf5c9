import ReportExport.Json.Parse
import ReportExport.Text.Quoted

/-!
# Decoding JSON into typed records

A record is decoded from an object by its field names, or from an array by
position. Errors use the data model's wording: `invalid type: integer `5`,
expected a string`, `missing field `kind``, `invalid length 1, expected struct
FilterMap with 3 elements`, `unknown variant `s3`, expected `filesystem``.

Fields are checked in the order the object lists them, so the first faulty
field of the text is the one reported; missing fields are reported after that,
in declaration order.

An error remembers the path of child indices to the value it is about and
whether it points before or after that value, so that an error found in a
value read from text can be given a line and column.
-/

namespace ReportExport

/-- Which place around a value a decoding error points at. -/
inductive Anchor where
  /-- the value's first byte -/
  | start
  /-- the byte after the value -/
  | stop
  /-- the byte after the value's first byte: a look at the value that did not
  take it -/
  | peekStart
  /-- the next byte after the value that is not blank -/
  | afterValue
  /-- where a sequence stands after the value, its item: past the closing
  bracket, or at the next item -/
  | seqEnd
  /-- the byte after the key of the member the path ends at -/
  | keyEnd
  /-- the next byte after that key that is not blank -/
  | afterKey
  deriving Repr, DecidableEq

/-- A message and the place in a value it is about: the path of child indices
to the value and the place around it. -/
structure Located where
  message : String
  path : List Nat := []
  anchor : Anchor := .stop
  deriving Repr

/-- A decoding error: what it says and where, and, when a text read as it goes
fails otherwise than its value would, how the text fails. -/
structure DecodeError extends Located where
  inText : Option Located := none
  deriving Repr

/-- The result of decoding. -/
abbrev Decoded (α : Type) := Except DecodeError α

namespace Decoded

/-- Places the errors of a child's decoding under the child's index. -/
def inChild {α : Type} (i : Nat) (r : Decoded α) : Decoded α :=
  match r with
  | .ok a => .ok a
  | .error e =>
    .error { e with path := i :: e.path, inText := e.inText.map fun t => { t with path := i :: t.path } }

/-- An error raised by the decoding of a whole value, pointing after it. -/
def fail {α : Type} (message : String) : Decoded α := .error { message }

end Decoded

/-- How a value is named in a type error. -/
def Json.describe : Json → String
  | .null => "null"
  | .bool b => "boolean `" ++ toString b ++ "`"
  | .num (.int i) => "integer `" ++ intText i ++ "`"
  | .num (.float f) => "floating point `" ++ (FloatStyle.json.text? f).getD "NaN" ++ "`"
  | .str s => "string " ++ Text.debugQuote s
  | .arr _ => "sequence"
  | .obj _ => "map"

namespace Json

/-- The type error for a value: a container is pointed at from its start, any
other value from its end. -/
def invalidType {α : Type} (j : Json) (expected : String) : Decoded α :=
  .error { message := "invalid type: " ++ j.describe ++ ", expected " ++ expected,
           anchor := if j.isScalar then .stop else .start }

/-- The error for a value of the right type outside the accepted range. -/
def invalidValue {α : Type} (j : Json) (expected : String) : Decoded α :=
  Decoded.fail ("invalid value: " ++ j.describe ++ ", expected " ++ expected)

/-- The error for a required field that is absent. -/
def missingField {α : Type} (name : String) : Decoded α :=
  Decoded.fail ("missing field `" ++ name ++ "`")

/-- The error for an array of the wrong length. -/
def invalidLength {α : Type} (n : Nat) (expected : String) : Decoded α :=
  Decoded.fail ("invalid length " ++ natText n ++ ", expected " ++ expected)

/-- The list of variant names in an error: one, two joined by `or`, or more. -/
def expectedVariants : List String → String
  | [] => "there are no variants"
  | [a] => "expected `" ++ a ++ "`"
  | [a, b] => "expected `" ++ a ++ "` or `" ++ b ++ "`"
  | vs => "expected one of " ++ ", ".intercalate (vs.map (fun v => "`" ++ v ++ "`"))

/-- The error for a variant name that is not one of `variants`. -/
def unknownVariant {α : Type} (name : String) (variants : List String) : Decoded α :=
  Decoded.fail ("unknown variant `" ++ name ++ "`, " ++ expectedVariants variants)

/-- Decodes a string. -/
def asString (j : Json) : Decoded String :=
  match j with
  | .str s => .ok s
  | _ => j.invalidType "a string"

/-- Decodes an integer in `[lo, hi]`; `name` is the integer type's name. -/
def asIntIn (name : String) (lo hi : Int) (j : Json) : Decoded Int :=
  match j with
  | .num (.int i) => if lo ≤ i && i ≤ hi then .ok i else j.invalidValue name
  | _ => j.invalidType name

/-- Decodes an unsigned 32-bit integer. -/
def asU32 (j : Json) : Decoded Nat :=
  (asIntIn "u32" 0 (Int.pow 2 32 - 1) j).map Int.toNat

/-- Decodes an unsigned 64-bit integer. -/
def asU64 (j : Json) : Decoded Nat :=
  (asIntIn "u64" 0 (Int.pow 2 64 - 1) j).map Int.toNat

/-- Decodes a machine-sized unsigned integer. -/
def asUsize (j : Json) : Decoded Nat :=
  (asIntIn "usize" 0 (Int.pow 2 64 - 1) j).map Int.toNat

/-- Decodes a signed 64-bit integer. -/
def asI64 (j : Json) : Decoded Int :=
  asIntIn "i64" (-Int.pow 2 63) (Int.pow 2 63 - 1) j

/-- Decodes a file system path, which is text. -/
def asPath (j : Json) : Decoded String :=
  match j with
  | .str s => .ok s
  | _ => j.invalidType "path string"

/-- Decodes an optional value: `null` is absent. -/
def asOption {α : Type} (f : Json → Decoded α) (j : Json) : Decoded (Option α) :=
  match j with
  | .null => .ok none
  | _ => (f j).map some

/-- Decodes every item of an array, the first failing item giving the error. -/
def asListOf {α : Type} (f : Json → Decoded α) (j : Json) : Decoded (List α) :=
  match j with
  | .arr xs =>
    (xs.zipIdx.mapM (fun (x, i) => Decoded.inChild i (f x)))
  | _ => j.invalidType "a sequence"

/-- Writes `key := value` into an association list: in place when the key is
there, at the end otherwise. -/
def setEntry {α : Type} (key : String) (value : α) : List (String × α) → List (String × α)
  | [] => [(key, value)]
  | (k, v) :: rest => if k = key then (k, value) :: rest else (k, v) :: setEntry key value rest

/-- Decodes the members of an object; a repeated key keeps its first place and
its last value. -/
def asMap {α : Type} (f : Json → Decoded α) (j : Json) : Decoded (List (String × α)) :=
  match j with
  | .obj ms => do
    let entries ← ms.zipIdx.mapM (fun ((k, v), i) => (Decoded.inChild i (f v)).map (fun a => (k, a)))
    pure (entries.foldl (fun acc (k, a) => setEntry k a acc) [])
  | _ => j.invalidType "a map"

/-- Any value, as a value holds it: repeated keys merged. -/
def asValue (j : Json) : Decoded Json := .ok j.merged

/-- A unit variant's content: nothing, or `null`. -/
def asUnit (j : Json) : Decoded Unit :=
  match j with
  | .null => .ok ()
  | _ => j.invalidType "unit"

/-- Decodes a variant without content, given by its name alone or as the one
key of an object whose value is `null`. A value must have exactly one key; a
text is read key first, and fails on a second member where it expects the
object to close. -/
def asVariant {α : Type} (variants : List (String × α)) (j : Json) : Decoded α :=
  let named (s : String) : Decoded α :=
    match variants.find? (fun (n, _) => n = s) with
    | some (_, a) => .ok a
    | none => unknownVariant s (variants.map Prod.fst)
  match j with
  | .str s => named s
  | .obj ms =>
    let asValueForm : Decoded α := match ms with
      | [(k, v)] => do
        let a ← named k
        Decoded.inChild 0 (asUnit v)
        pure a
      | _ => invalidValue j "map with a single key"
    let asTextForm : Except Located α := match ms with
      | [] => .error { message := "expected value", anchor := .stop }
      | (k, v) :: rest =>
        match named k with
        | .error e => .error { e.toLocated with path := [0], anchor := .keyEnd }
        | .ok a =>
          match Decoded.inChild 0 (asUnit v) with
          | .error e => .error e.toLocated
          | .ok () =>
            if rest.isEmpty then .ok a
            else .error { message := "expected value", path := [0], anchor := .afterValue }
    match asValueForm, asTextForm with
    | .ok a, _ => .ok a
    | .error e, .error t => .error { e with inText := some t }
    | .error e, .ok _ => .error e
  | _ => j.invalidType "string or map"

/-- The value of a member and its index, by key. -/
def memberAt? (ms : List (String × Json)) (key : String) : Option (Nat × Json) :=
  (ms.zipIdx.find? (fun ((k, _), _) => k = key)).map (fun ((_, v), i) => (i, v))

end Json

/-- One field of a record: its name and how its value is checked. -/
structure FieldRule where
  name : String
  check : Json → Decoded Unit

/-- A field rule from a decoder whose result is dropped. -/
def FieldRule.of {α : Type} (name : String) (f : Json → Decoded α) : FieldRule :=
  ⟨name, fun j => (f j).map (fun _ => ())⟩

/-- A record's members as decoding sees them: a field is read from the member
of its name, and the members are checked in their own order first. -/
structure Fields where
  members : List (String × Json)

namespace Fields

/-- Checks every member that names a field, in the members' order; a field
named a second time is an error at its key, which only a text can show. -/
def check (fs : Fields) (rules : List FieldRule) : Decoded Unit := do
  let step (seen : List String) : (String × Json) × Nat → Decoded (List String)
    | ((k, v), i) =>
      match rules.find? (fun r => r.name = k) with
      | some r =>
        if seen.contains k then
          .error { message := "duplicate field `" ++ k ++ "`", path := [i], anchor := .afterKey }
        else (Decoded.inChild i (r.check v)).map fun _ => k :: seen
      | none => .ok seen
  let _ ← List.foldlM step [] fs.members.zipIdx
  pure ()

/-- A field that must be present. -/
def required {α : Type} (fs : Fields) (name : String) (f : Json → Decoded α) : Decoded α :=
  match Json.memberAt? fs.members name with
  | some (i, v) => Decoded.inChild i (f v)
  | none => Json.missingField name

/-- A field that may be absent, or `null`. -/
def optional {α : Type} (fs : Fields) (name : String) (f : Json → Decoded α) : Decoded (Option α) :=
  match Json.memberAt? fs.members name with
  | some (i, v) => Decoded.inChild i (Json.asOption f v)
  | none => .ok none

/-- A field that takes a default value when absent. -/
def withDefault {α : Type} (fs : Fields) (name : String) (default : α) (f : Json → Decoded α) :
    Decoded α :=
  match Json.memberAt? fs.members name with
  | some (i, v) => Decoded.inChild i (f v)
  | none => .ok default

end Fields

/-- A record's items read by position, as an array gives them. -/
structure Items where
  items : List Json
  /-- How the record is named in a length error. -/
  expecting : String

namespace Items

/-- The item at a position, which must be there. -/
def required {α : Type} (it : Items) (i : Nat) (f : Json → Decoded α) : Decoded α :=
  match it.items[i]? with
  | some v => Decoded.inChild i (f v)
  | none => Json.invalidLength i it.expecting

/-- The item at a position, or a default when the array is shorter. -/
def withDefault {α : Type} (it : Items) (i : Nat) (default : α) (f : Json → Decoded α) :
    Decoded α :=
  match it.items[i]? with
  | some v => Decoded.inChild i (f v)
  | none => .ok default

/-- Fails when the array has more items than the record has fields: a value
by its length, a text at the first item too many. -/
def noneBeyond (it : Items) (count : Nat) : Decoded Unit :=
  if it.items.length > count then
    .error { message := "invalid length " ++ natText it.items.length ++ ", expected fewer elements in array",
             inText := some { message := "trailing characters", path := [count], anchor := .peekStart } }
  else .ok ()

end Items

namespace DecodeError

/-- The first byte at or after `k` that is not blank. -/
def skipBlanks (bytes : ByteArray) (k : Nat) : Nat :=
  let rec go (k : Nat) : Nat → Nat
    | 0 => k
    | fuel + 1 =>
      match bytes[k]? with
      | some b => if b = 32 || b = 9 || b = 10 || b = 13 then go (k + 1) fuel else k
      | none => k
  go k (bytes.size + 1)

/-- The byte offset a located message points at, found by following its path
through the spans of the text the value was read from. -/
def offsetOf (l : Located) (bytes : ByteArray) (span : JsonText.Span) : Nat :=
  let around (s : JsonText.Span) : Nat :=
    match l.anchor with
    | .start => s.start
    | .stop | .keyEnd | .afterKey => s.stop
    | .peekStart => s.start + 1
    | .afterValue => skipBlanks bytes s.stop
    | .seqEnd =>
      let j := skipBlanks bytes s.stop
      match bytes[j]? with
      | some 93 => j + 1
      | some 44 => skipBlanks bytes (j + 1)
      | _ => j
  let rec go (s : JsonText.Span) : List Nat → Nat
    | [] => around s
    | [i] =>
      match l.anchor, s.keyEnds[i]? with
      | .keyEnd, some k => k
      | .afterKey, some k => skipBlanks bytes k
      | _, _ =>
        match s.children[i]? with
        | some c => around c
        | none => s.stop
    | i :: rest =>
      match s.children[i]? with
      | some c => go c rest
      | none => s.stop
  go span l.path

/-- A position that a message names at its very end, as in
"... at line 3 column 7", with the message before it. Such a suffix is read
off every message when the error is made, so a position written into the text
of a value takes the place of the error's own; line 0 stands for no position. -/
def statedPosition (message : String) : Option (String × JsonText.Position) :=
  let isNumber (s : String) : Bool := !s.isEmpty && s.all Char.isDigit && s.toNat! < Nat.pow 2 64
  match (message.splitOn " at line ").reverse with
  | last :: before@(_ :: _) =>
    match last.splitOn " column " with
    | [l, c] =>
      if isNumber l && isNumber c then
        some (" at line ".intercalate before.reverse, ⟨l.toNat!, c.toNat!⟩)
      else none
    | _ => none
  | _ => none

/-- The message of an error in a value given as a value, not as text: a stated
position shows unless its line is 0. -/
def valueMessage (e : DecodeError) : String :=
  match statedPosition e.message with
  | some (m, p) => if p.line = 0 then m else m ++ p.suffix
  | none => e.message

/-- The message of an error in a value read from `text`, with its position: a
stated position of a line other than 0 stands, else the place of the error. -/
def renderIn (e : DecodeError) (text : String) (span : JsonText.Span) : String :=
  let l := e.inText.getD e.toLocated
  let bytes := text.toUTF8
  let found := (JsonText.positionOf bytes.toList (offsetOf l bytes span)).suffix
  match statedPosition l.message with
  | some (m, p) => if p.line = 0 then m ++ found else m ++ p.suffix
  | none => l.message ++ found

end DecodeError

/-- Reads a text and decodes it; syntax and decoding errors both come with a
position. -/
def decodeText {α : Type} (text : String) (f : Json → Decoded α) : Except String α :=
  match JsonText.readSpanned text with
  | .error e => .error (e.render text)
  | .ok (j, span) =>
    match f j with
    | .ok a => .ok a
    | .error e => .error (e.renderIn text span)

/-- Decodes a value; errors carry no position. -/
def decodeValue {α : Type} (j : Json) (f : Json → Decoded α) : Except String α :=
  match f j with
  | .ok a => .ok a
  | .error e => .error e.valueMessage

end ReportExport
