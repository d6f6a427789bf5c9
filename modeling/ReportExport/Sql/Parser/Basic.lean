import ReportExport.Sql.Token
import ReportExport.Sql.Syntax

/-!
# The parser's state and its small steps

A statement is parsed from the token array of the whole text, starting at a
token position. The parser keeps the position, and the parameters seen so
far: the highest number given out and the names with their numbers. A name
seen again gets its first number; `?` takes the next number; `?N` takes `N`.

Errors are texts. At the end of the text a missing token is reported as
incomplete input; a token that is no token is reported as unrecognized; any
other unexpected token as a syntax error near it.
-/

namespace ReportExport.Sql.Parser

open Text
open ReportExport.Sql

/-- The text being parsed and its tokens. -/
structure Source where
  bytes : Array UInt8
  tokens : Array Token

/-- What the parser keeps while it reads. -/
structure State where
  pos : Nat
  /-- the highest parameter number given out -/
  vars : Nat := 0
  /-- parameter names with their numbers, first seen first -/
  names : Array (String × Nat) := #[]

/-- The parser: reads the source, keeps the state, fails with a message. -/
abbrev P := ReaderT Source (StateT State (Except String))

/-- The most parameters a statement may have. -/
def maxVariables : Nat := 32766

/-- The text between two byte offsets. -/
def Source.slice (s : Source) (start stop : Nat) : String :=
  lenientString (s.bytes.extract start stop).toList

/-- The text of a token as written. -/
def Source.textOf (s : Source) (t : Token) : String := s.slice t.start t.stop

/-- The token at a position; past the end, the last one (the end or a
token that is none). -/
def Source.tokenAt (s : Source) (i : Nat) : Token :=
  match s.tokens[i]? with
  | some t => t
  | none => s.tokens.back?.getD { kind := .eof, start := s.bytes.size, stop := s.bytes.size }

/-- The current token. -/
def peek : P Token := do
  return (← read).tokenAt (← get).pos

/-- The token `k` places ahead. -/
def peekAhead (k : Nat) : P Token := do
  return (← read).tokenAt ((← get).pos + k)

/-- Moves past the current token, never past the end. -/
def advance : P Unit := do
  let t ← peek
  match t.kind with
  | .eof | .illegal => pure ()
  | _ => modify fun st => { st with pos := st.pos + 1 }

/-- The error for an unexpected token. -/
def unexpected (s : Source) (t : Token) : String :=
  match t.kind with
  | .eof => "incomplete input"
  | .illegal => "unrecognized token: \"" ++ s.textOf t ++ "\""
  | _ => "near \"" ++ s.textOf t ++ "\": syntax error"

/-- Fails at the current token. -/
def fail {α : Type} : P α := do
  throw (unexpected (← read) (← peek))

/-- Fails with a message. -/
def failWith {α : Type} (msg : String) : P α := throw msg

/-- Whether the current token is the keyword. -/
def atKeyword (k : String) : P Bool := return (← peek).isKeyword k

/-- Whether the current token is the punctuation. -/
def atPunct (p : String) : P Bool := return (← peek).isPunct p

/-- Takes the keyword if it is next. -/
def acceptKeyword (k : String) : P Bool := do
  if ← atKeyword k then advance; return true else return false

/-- Takes the punctuation if it is next. -/
def acceptPunct (p : String) : P Bool := do
  if ← atPunct p then advance; return true else return false

/-- Requires the keyword. -/
def expectKeyword (k : String) : P Unit := do
  if ← atKeyword k then advance else fail

/-- Requires the punctuation. -/
def expectPunct (p : String) : P Unit := do
  if ← atPunct p then advance else fail

/-- The text from the start of one token to the start of the current one,
without blanks at either end: how an expression is named by what was written. -/
def spanFrom (first : Token) : P String := do
  let s ← read
  let next ← peek
  let raw := (s.bytes.extract first.start next.start).toList
  let trimmed := ((raw.dropWhile isSpaceByte).reverse.dropWhile isSpaceByte).reverse
  return lenientString trimmed

/-- The text from the start of one token to the end of the previous token. -/
def textThrough (first : Token) : P String := do
  let s ← read
  let st ← get
  let last := s.tokenAt (st.pos - 1)
  return s.slice first.start last.stop

/-! ## Names

A name may be an identifier, a keyword that stands for a name, and in some
places a string or a join keyword. -/

/-- The name a token stands for: identifiers, and keywords that fall back to
names (written as they are); strings when `strings`; join keywords and
INDEXED when `joins`. -/
def nameOf? (s : Source) (t : Token) (strings joins : Bool) : Option String :=
  match t.kind with
  | .ident n _ => some n
  | .string b => if strings then some (lenientString b) else none
  | .keyword k =>
    if fallbackKeywords.contains k || k == "FILTER" || k == "OVER" || k == "WINDOW" then
      some (s.textOf t)
    else if joins && (joinKeywords.contains k || k == "INDEXED") then some (s.textOf t)
    else none
  | _ => none

/-- Reads a name as the grammar's general name: identifier, string, or
keyword usable as a name. -/
def name : P String := do
  match nameOf? (← read) (← peek) true true with
  | some n => advance; return n
  | none => fail

/-- Reads an identifier or a string, as types, collations and implicit
aliases are written. -/
def idOrString : P String := do
  match nameOf? (← read) (← peek) true false with
  | some n => advance; return n
  | none => fail

/-- Reads an optional `. name` after a name: the schema and the name. -/
def qualifiedName : P (Option String × String) := do
  let first ← name
  if ← acceptPunct "." then
    let second ← name
    return (some first, second)
  else return (none, first)

/-- Reads a parenthesized list of names. -/
def nameList : P (List String) := do
  expectPunct "("
  let rec go (acc : Array String) : Nat → P (List String)
    | 0 => fail
    | fuel + 1 => do
      let n ← name
      let acc := acc.push n
      if ← acceptPunct "," then go acc fuel
      else
        expectPunct ")"
        return acc.toList
  go #[] ((← read).tokens.size + 1)

/-! ## Literals and parameters -/

/-- The text of a number with digit separators removed, or the error for a
separator that does not stand between two digits. The error quotes the text
as far as the separators were removed when the last bad one was met. -/
def removeSeparators (text : String) : Except String String :=
  let cs := text.toList
  let hex := match cs with
    | '0' :: x :: _ => x == 'x' || x == 'X'
    | _ => false
  let isDigitChar (c : Char) : Bool :=
    if hex then c.isDigit || ('a' ≤ c.toLower && c.toLower ≤ 'f') else c.isDigit
  let rec go (prev : Option Char) (kept : List Char) (err : Option String) :
      List Char → Option String × List Char
    | [] => (err, kept.reverse)
    | c :: rest =>
      if c == '_' then
        let ok := (prev.map isDigitChar).getD false && ((rest.head?.map isDigitChar).getD false)
        let err := if ok then err else
          some (String.ofList (kept.reverse ++ cs.drop kept.length))
        go (some c) kept err rest
      else go (some c) (c :: kept) err rest
  match go none [] none cs with
  | (some e, _) => .error ("unrecognized token: \"" ++ e ++ "\"")
  | (none, kept) => .ok (String.ofList kept)

/-- Whether a number's text is written as a real (a point or an exponent),
hexadecimal numbers apart. -/
def looksReal (text : String) : Bool :=
  let cs := text.toList
  match cs with
  | '0' :: x :: _ => if x == 'x' || x == 'X' then false else cs.any (fun c => c == '.' || c == 'e' || c == 'E')
  | _ => cs.any (fun c => c == '.' || c == 'e' || c == 'E')

/-- Gives a parameter its number: `?` the next one, `?N` the number `N`, a
name its earlier number or the next one. -/
def assignParameter (text : String) : P Nat := do
  let st ← get
  let cs := text.toList
  match cs with
  | ['?'] =>
    let n := st.vars + 1
    set { st with vars := n }
    checkCount n
    return n
  | '?' :: digits =>
    let (value, shape) := readInteger (bytesOf (String.ofList digits))
    let ok := shape == .exact
    if !ok || value < 1 || value > maxVariables then
      failWith ("variable number must be between ?1 and ?" ++ toString maxVariables)
    else
      let n := value.toNat
      if n > st.vars then
        set { st with vars := n, names := st.names.push (text, n) }
      else if !(st.names.any (·.2 == n)) then
        set { st with names := st.names.push (text, n) }
      return n
  | _ =>
    match st.names.find? (·.1 == text) with
    | some (_, n) => return n
    | none =>
      let n := st.vars + 1
      set { st with vars := n, names := st.names.push (text, n) }
      checkCount n
      return n
where
  checkCount (n : Nat) : P Unit :=
    if n > maxVariables then failWith "too many SQL variables" else pure ()

end ReportExport.Sql.Parser
