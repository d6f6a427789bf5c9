import ReportExport.Cli.Parse
import ReportExport.App.Workspace
import ReportExport.Text.Blank
import ReportExport.Text.Alphanumeric

/-!
# Environment files

A `.env` file sets environment variables that are not set already. It is
looked up in the working directory and then in each directory above it. A
byte order mark at its start is skipped.

The file is first cut into entries. An entry ends at a line break that is
outside quotes and does not follow a backslash, so a quoted value may span
lines; a `#` after a blank ends the entry's text there; a line whose text
starts with `#` is a comment. A file whose last entry is left open (inside
quotes, or after a backslash or a blank at the very end of the file) does not
read from that entry on.

Each entry is blank, or `KEY=value`, optionally after `export `; blanks are
the Unicode White_Space characters, and blanks at the end are dropped. A key
starts with a letter or `_` and goes on with letters, digits, `_` and `.`.
The value is read character by character:

* text in single quotes is taken as it is;
* text in double quotes is taken with the escapes `\\`, `\'`, `\"`, `\$`,
  `\ ` and `\n`;
* outside quotes a backslash escapes the next character the same way, a
  space or tab ends the value, and after it only blanks and a comment may
  follow;
* `$NAME` and `$` followed by a name in braces are replaced by the
  variable's value from the environment, or else from an entry above; a
  name is made of Unicode letters and numbers.

Entries are applied in order and the first entry that does not read stops the
file, the entries before it keeping their effect.
-/

namespace ReportExport.Cli

/-- Where a value reader is. -/
structure ValueScan where
  output : String := ""
  strong : Bool := false
  weak : Bool := false
  escaped : Bool := false
  expectingEnd : Bool := false
  /-- The name of a substitution being read, and whether it is in braces. -/
  substitution : Option (String × Bool) := none
  done : Bool := false
  deriving Repr, Inhabited

/-- The value of a substituted name: the environment's, or a line above's. -/
def substituted (env above : Environment) (name : String) : String :=
  ((env.lookup name) <|> (above.lookup name)).getD ""

/-- Reads one character of a value; `none` when the value does not read. -/
def valueStep (env above : Environment) (st : ValueScan) (c : Char) : Option ValueScan :=
  if st.done then some st
  else if st.expectingEnd then
    if c == ' ' || c == '\t' then some st
    else if c == '#' then some { st with done := true }
    else none
  else if st.escaped then
    let out := match c with
      | 'n' => some '\n'
      | '\\' | '\'' | '"' | '$' | ' ' => some c
      | _ => none
    out.map fun ch => { st with output := st.output.push ch, escaped := false }
  else if st.strong then
    if c == '\'' then some { st with strong := false } else some { st with output := st.output.push c }
  else match st.substitution with
    | some (name, braced) =>
      if Text.isAlphanumeric c then some { st with substitution := some (name.push c, braced) }
      else if braced then
        if c == '\x7d' then
          some { st with output := st.output ++ substituted env above name, substitution := none }
        else some { st with substitution := some (name.push c, braced) }
      else if c == '\x7b' && name.isEmpty then some { st with substitution := some (name, true) }
      else
        let output := st.output ++ substituted env above name
        if c == '$' then some { st with output, substitution := some ("", false) }
        else some { st with output := output.push c, substitution := none }
    | none =>
      if c == '$' then some { st with substitution := some ("", false) }
      else if st.weak then
        if c == '"' then some { st with weak := false }
        else if c == '\\' then some { st with escaped := true }
        else some { st with output := st.output.push c }
      else if c == '\'' then some { st with strong := true }
      else if c == '"' then some { st with weak := true }
      else if c == '\\' then some { st with escaped := true }
      else if c == ' ' || c == '\t' then some { st with expectingEnd := true }
      else some { st with output := st.output.push c }

/-- Reads a value; `none` when it does not read, as an open quote does. -/
def readValue (env above : Environment) (text : String) : Option String := do
  let st ← text.toList.foldlM (valueStep env above) {}
  match st.substitution with
  | some (_, true) => none
  | some (name, false) => if st.strong || st.weak then none else some (st.output ++ substituted env above name)
  | none => if st.strong || st.weak then none else some st.output

/-- Whether a character may go on a key. -/
def keyChar (c : Char) : Bool := c.isAlphanum || c == '_' || c == '.'

/-- Splits a key off the front of a text. -/
def readKey (cs : List Char) : Option (String × List Char) :=
  match cs with
  | c :: _ =>
    if c.isAlpha || c == '_' then some (String.ofList (cs.takeWhile keyChar), cs.dropWhile keyChar)
    else none
  | [] => none

/-- Reads one entry: `some none` for a blank or comment entry, `none` for an
entry that does not read. -/
def readLine (env above : Environment) (line : String) : Option (Option (String × String)) := do
  let cs := (line.toList.reverse.dropWhile Text.isBlank).reverse.dropWhile Text.isBlank
  if cs.isEmpty || cs.head? == some '#' then return none
  let (key, rest) ← readKey cs
  let rest := rest.dropWhile Text.isBlank
  let (key, rest) ← match rest with
    | '=' :: rest => some (key, rest)
    | _ =>
      if key == "export" then do
        let (key, rest) ← readKey rest
        match rest.dropWhile Text.isBlank with
        | '=' :: rest => some (key, rest)
        | _ => none
      else none
  let rest := rest.dropWhile Text.isBlank
  if rest.isEmpty || rest.head? == some '#' then return some (key, "")
  let value ← readValue env above (String.ofList rest)
  return some (key, value)

/-- Where the cutting of a file into entries stands after a character. -/
inductive EntryState where
  /-- the entry may end at the next line break -/
  | complete
  /-- after a blank: a `#` now starts a comment -/
  | blank
  /-- after a backslash outside quotes -/
  | escape
  /-- inside double quotes -/
  | weak
  /-- after a backslash inside double quotes -/
  | weakEscape
  /-- inside single quotes -/
  | strong
  deriving Repr, DecidableEq, Inhabited

/-- The state after one character. -/
def EntryState.step : EntryState → Char → EntryState
  | .blank, c =>
    if c == '\\' then .escape else if c == '"' then .weak else if c == '\'' then .strong else .complete
  | .escape, _ => .complete
  | .complete, c =>
    if Text.isBlank c && c != '\n' && c != '\r' then .blank
    else if c == '\\' then .escape else if c == '"' then .weak else if c == '\'' then .strong
    else .complete
  | .weak, c => if c == '\\' then .weakEscape else if c == '"' then .complete else .weak
  | .weakEscape, _ => .weak
  | .strong, c => if c == '\'' then .complete else .strong

/-- Runs a line through the states: the state at its end, or the number of
characters before a `#` that follows a blank. -/
def EntryState.run (st : EntryState) : List Char → Nat → EntryState ⊕ Nat
  | [], _ => .inl st
  | c :: rest, k => if st == .blank && c == '#' then .inr k else (st.step c).run rest (k + 1)

/-- Drops one line break, and a carriage return before it. -/
def dropBreak (cs : List Char) : List Char :=
  match cs.reverse with
  | '\n' :: '\r' :: rest => rest.reverse
  | '\n' :: rest => rest.reverse
  | _ => cs

/-- Cuts the lines of a file (each with its line break, but the last) into
entries; an entry still open at the end of the file is dropped. -/
def entries : List (List Char) → List Char → EntryState → List String
  | [], _, _ => []
  | line :: rest, buffer, st =>
    let whole := buffer ++ line
    if (whole.dropWhile Text.isBlank).head? == some '#' then "" :: entries rest [] .complete
    else
      match st.run line 0 with
      | .inr k => String.ofList (buffer ++ line.take k) :: entries rest [] .complete
      | .inl .complete => String.ofList (dropBreak whole) :: entries rest [] .complete
      | .inl st => entries rest whole st

/-- The lines of a text, each with its line break. -/
def physicalLines (cs : List Char) : List (List Char) :=
  let rec go (acc : List Char) : List Char → List (List Char)
    | [] => if acc.isEmpty then [] else [acc.reverse]
    | c :: rest => if c == '\n' then (c :: acc).reverse :: go [] rest else go (c :: acc) rest
  go [] cs

/-- The variables of an environment file's entries, in order, up to the first
entry that does not read. -/
def readLines (env : Environment) : List String → Environment → Environment
  | [], above => above
  | line :: rest, above =>
    match readLine env above line with
    | none => above
    | some none => readLines env rest above
    | some (some kv) => readLines env rest (above ++ [kv])

/-- The variables a file's text sets, in order. -/
def readEnvText (env : Environment) (text : String) : Environment :=
  let cs := match text.toList with
    | '\ufeff' :: rest => rest
    | cs => cs
  readLines env (entries (physicalLines cs) [] .complete) []

/-- The name of the environment file. -/
def envFileName : String := ".env"

/-- The environment file found from a directory upwards, if any. -/
def findEnvFile (files : FileTree) (dir : TreePath) : Option String :=
  ((List.range (dir.length + 1)).map fun i => dir.take (dir.length - i)).findSome? fun d =>
    match files.node? (d ++ [envFileName]) with
    | some (.file text) => some text
    | _ => none

/-- The environment after loading the environment file: its variables are
added unless already set, the first setting of a variable winning. -/
def loadEnvFile (env : Environment) (files : FileTree) (cwd : TreePath) : Environment :=
  match findEnvFile files cwd with
  | none => env
  | some text =>
    (readEnvText env text).foldl (fun acc (k, v) =>
      if (acc.lookup k).isSome then acc else acc ++ [(k, v)]) env

end ReportExport.Cli
